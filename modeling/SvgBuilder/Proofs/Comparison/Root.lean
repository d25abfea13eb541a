import SvgBuilder.Comparison.Difference
import SvgBuilder.Proofs.Comparison.Epilog

/-!
# Only the root counts

The names in a document are those in its root element: what is dropped at both ends of its text is
its prolog and its epilog.  Two things must not deceive the comparison, which does not read the text
as a document: the end of the document type declaration has to be the first thing that looks like
it, and a comment or an instruction that seems to begin in the root element must not end in the
epilog.

## Main results

* `inside_of_parts`: what stands inside of a document.
* `names_of_root`: the names in a document are those in its root element.
-/

namespace SvgBuilder.Comparison

open SvgBuilder.Text SvgBuilder.Markup

variable {prolog doctype root epilog : List Char}

/-- A root element begins with a tag. -/
theorem withoutProlog_of_start {c : Char} (hc : isNameStart c = true) (s : List Char) :
    withoutProlog ('<' :: c :: s) = '<' :: c :: s := by
  have hMark : c ≠ '!' := by
    rintro rfl
    exact absurd hc (by decide)
  have hQuestion : c ≠ '?' := by
    rintro rfl
    exact absurd hc (by decide)
  have hDoctype : behindDoctype? ('<' :: c :: s) = none := by
    have hOpening : behind? "<!DOCTYPE" ('<' :: c :: s) = none := by
      cases h : behind? "<!DOCTYPE" ('<' :: c :: s) with
      | none => rfl
      | some u => exact absurd (List.cons.inj (List.cons.inj (behind?_eq_some_iff.1 h)).2).1 hMark
    rw [behindDoctype?, hOpening]
    rfl
  have hMisc : behindMisc? ('<' :: c :: s) = none := by
    cases h : behindMisc? ('<' :: c :: s) with
    | none => rfl
    | some t =>
      rcases behindMisc?_eq_some_iff.1 h with ⟨d, hBlank, hText⟩ | ⟨m, hm, u, x, hText, -⟩
      · obtain rfl := (List.cons.inj hText).1
        exact absurd hBlank (by decide)
      · simp only [miscMarks, List.mem_cons, List.not_mem_nil, or_false] at hm
        rcases hm with rfl | rfl
        · exact absurd (List.cons.inj (List.cons.inj hText).2).1 hQuestion
        · exact absurd (List.cons.inj (List.cons.inj hText).2).1 hMark
  refine withoutProlog_eq_self ?_
  show (behindDoctype? _).orElse (fun _ => behindMisc? _) = none
  rw [hDoctype, hMisc]
  rfl

/-- What stands inside of a document stands inside of its root element. -/
theorem inside_of_parts (h : Parts prolog doctype root epilog)
    (hDoctype : doctype = [] ∨ IsPlainDoctype doctype) (hEnds : HoldsEnds root epilog) :
    inside (prolog ++ root ++ epilog) = inside root := by
  obtain ⟨c, x, hStart, hc⟩ := h.start
  have hRoot : ∀ s, withoutProlog (root ++ s) = root ++ s := by
    intro s
    rw [hStart]
    exact withoutProlog_of_start hc (x ++ s)
  have hEpilog : isMisc epilog = true := by
    apply isMisc_of_normalized
    rw [(Gives.of_yields (skips_skipMisc _ _) h.ended).isMisc]
    exact isMisc_nil
  have hAlone := hRoot []
  rw [List.append_nil] at hAlone
  rw [inside, inside, withoutProlog_of_hasProlog h.opened hDoctype, hRoot, hAlone]
  exact withoutEpilog_append_misc h.closed hEnds hEpilog

/-- Only the root element of a document counts.  Every document that can be read has a prolog, a
root element and an epilog.  With a byte order mark before it or without one, its names are those in
the root element, if the end of its document type declaration is the first that is seen, and nothing
that seems to begin in the root element ends in the epilog only. -/
theorem names_of_root {s : List Char} {element : Element} (h : readCharacters s = .ok element) :
    (∃ prolog doctype root epilog,
      s = prolog ++ root ++ epilog ∧ Parts prolog doctype root epilog) ∧
    ∀ prolog doctype root epilog, s = prolog ++ root ++ epilog →
      Parts prolog doctype root epilog → (doctype = [] ∨ IsPlainDoctype doctype) →
      HoldsEnds root epilog → ∀ mark ∈ [[], ['\uFEFF']],
        elementNames (String.ofList (mark ++ s)) = elementNames (String.ofList root) ∧
          attributeNames (String.ofList (mark ++ s)) = attributeNames (String.ofList root) := by
  refine ⟨exists_parts h, ?_⟩
  intro prolog doctype root epilog hText hParts hDoctype hEnds mark hMark
  have hInside : inside (mark ++ s) = inside root := by
    rw [← inside_of_parts hParts hDoctype hEnds, ← hText]
    simp only [List.mem_cons, List.not_mem_nil, or_false] at hMark
    rcases hMark with rfl | rfl
    · rfl
    · exact congrArg withoutEpilog (withoutProlog_mark s)
  simp only [elementNames, attributeNames, names, String.toList_ofList, hInside, and_self]

/-! ## A document with all parts -/

/-- A declaration and a comment, a document type declaration, a root element with a comment, and a
comment behind it. -/
def partedHeading : String := "<?xml version='1.0'?><!-- a='b' -->"
def partedDoctype : String := "<!DOCTYPE svg [<!ENTITY c 'd=\x22e\x22'>]>"
def partedRoot : String := "<svg f='g'><!-- h='i' --></svg>"
def partedEpilog : String := "\n<!-- j='k' -->"

theorem hasProlog_parted : HasProlog
    ((partedHeading ++ partedDoctype).toList ++ partedRoot.toList ++ partedEpilog.toList)
    partedDoctype.toList (partedRoot.toList ++ partedEpilog.toList) := by
  have hHeading : readHeading? ((partedHeading ++ partedDoctype).toList ++ partedRoot.toList ++
      partedEpilog.toList) = .ok (⟨"1.0", none, false⟩,
        ("<!-- a='b' -->" ++ partedDoctype ++ partedRoot ++ partedEpilog).toList) :=
    ok_of_toOption (by decide +kernel)
  obtain ⟨⟨⟨d, behind⟩, progress⟩, hRun, rfl⟩ := exists_ok_of_toOption
    (x := (readDoctype (.empty false) (" svg [<!ENTITY c 'd=\x22e\x22'>]>".toList ++
      (partedRoot.toList ++ partedEpilog.toList))).run (.start 0)) (f := (·.1.2))
    (b := partedRoot.toList ++ partedEpilog.toList) (by decide +kernel)
  exact .typed hHeading (Gives.of_run (s := .start 0) (by decide +kernel)) ⟨_, progress, hRun⟩
    (Gives.of_run (s := .start 0) (by decide +kernel))

theorem parts_parted : Parts (partedHeading ++ partedDoctype).toList partedDoctype.toList
    partedRoot.toList partedEpilog.toList := by
  obtain ⟨⟨draft, rest⟩, hRead, rfl⟩ := exists_ok_of_toOption
    (x := readRoot (normalized (partedRoot.toList ++ partedEpilog.toList))) (f := (·.2))
    (b := normalized partedEpilog.toList) (by decide +kernel)
  refine ⟨hasProlog_parted, ⟨draft, hRead⟩, ⟨partedRoot.toList.dropLast, by decide⟩, ?_⟩
  exact Gives.of_run (s := .start 0) (by decide +kernel)

theorem isPlainDoctype_parted : IsPlainDoctype partedDoctype.toList := by
  have hSubset : ¬EndsSubset "<!ENTITY c 'd=\x22e\x22'>".toList := by
    rintro ⟨x, blanks, y, hText, -⟩
    have hMem : ']' ∈ "<!ENTITY c 'd=\x22e\x22'>".toList := by
      rw [hText]
      simp
    exact absurd hMem (by decide)
  exact @IsPlainDoctype.subset " svg ".toList _ [] (by decide) (by decide) hSubset
    fun c hc => nomatch hc

/-- Of that document only the names in the root element count. -/
theorem names_of_root_parted :
    let text := partedHeading ++ partedDoctype ++ partedRoot ++ partedEpilog
    elementNames text = elementNames partedRoot ∧ attributeNames text = attributeNames partedRoot := by
  have hText : (partedHeading ++ partedDoctype ++ partedRoot ++ partedEpilog).toList =
      (partedHeading ++ partedDoctype).toList ++ partedRoot.toList ++ partedEpilog.toList := by
    simp only [String.toList_append]
  have hAccepted : (readCharacters (partedHeading ++ partedDoctype ++ partedRoot ++
      partedEpilog).toList).toOption.map (fun _ => ()) = some () := by decide +kernel
  obtain ⟨element, hRead, -⟩ := exists_ok_of_toOption hAccepted
  have hNames := (names_of_root hRead).2 _ _ _ _ hText parts_parted (.inr isPlainDoctype_parted)
    (by decide +kernel) [] (by simp)
  simpa only [List.nil_append, String.ofList_toList] using hNames

end SvgBuilder.Comparison
