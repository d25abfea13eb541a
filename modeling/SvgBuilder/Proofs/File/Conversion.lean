import SvgBuilder.File.Conversion
import SvgBuilder.Proofs.Builder.Errors
import SvgBuilder.Proofs.Builder.Log
import SvgBuilder.Proofs.Comparison.Finding
import SvgBuilder.Proofs.Text.CodeText

/-!
# What conversions change

A conversion takes steps, and what is changed before a step that breaks off stays changed.  Three
parts follow each other.  The first one reads the file and makes the module; every step of it can
break off, and none of them changes anything.  The second one puts the module out.  It breaks off
before it does so, or with the file of the module open, which is empty then; that is the case for
code points that cannot be written, and for nothing else.  The third one compares names and cannot
break off.

That a module could not be written is an error in the notes and not the end.  The errors that are
noted before that are about transform lists, so this one is told from them by how it begins.

## Main results

* `keeps_prepare`: the first part changes nothing, however it ends.
* `pathFault?_eq_none_iff`: the paths that can be used.
* `prepare_meets`: what the first part gives is the module of the file.
* `delivered_deliver`: what the second part changes.
* `compareNames_outcome`: the third part always ends well.
* `convertFile_changes`: what a conversion changes.
-/

namespace SvgBuilder

open SvgBuilder.Markup SvgBuilder.Number SvgBuilder.Text SvgBuilder.Converting

/-! ## Names of characters -/

theorem isWhole_upperCode {code : Nat} (h : code.isValidChar) :
    (upperCode code).all (·.isValidChar) = true := by
  rw [upperCode, if_pos h]
  simp [CodeText.isValidChar_toNat]

theorem isWhole_capitalized {t : CodeText} (h : t.isWhole = true) :
    (capitalized t).isWhole = true := by
  unfold capitalized
  split
  · exact h
  · next code codes hCodes =>
    rw [CodeText.isWhole, hCodes, List.all_cons, Bool.and_eq_true, decide_eq_true_iff] at h
    rw [CodeText.isWhole, List.all_append, isWhole_upperCode h.1, h.2]
    rfl

theorem isWhole_withoutExtension {name : CodeText} (h : name.isWhole = true) :
    (withoutExtension name).isWhole = true := by
  unfold withoutExtension
  split
  · rw [CodeText.isWhole, List.all_eq_true] at h ⊢
    exact fun code hCode => h code (List.mem_of_mem_take hCode)
  · exact h

/-- The name of the module of a file is one of characters if the name of the file is. -/
theorem isWhole_moduleName {fileName : CodeText} (h : fileName.isWhole = true) :
    (moduleName fileName).isWhole = true := isWhole_capitalized (isWhole_withoutExtension h)

/-- Nothing keeps a module from being written if its header and the name of its file are of
characters. -/
theorem loneIn_eq_none {settings : Settings} {fileName : CodeText}
    (hHeader : (headerText settings).isWhole = true) (hName : fileName.isWhole = true)
    (root : Element) : loneIn settings fileName root = none := by
  rw [loneIn, CodeText.loneRun?_eq_none_iff.2 hHeader,
    CodeText.loneRun?_eq_none_iff.2 (isWhole_moduleName hName)]
  rfl

namespace Converting

variable {α β : Type}

theorem outcome_bind (x : Converting α) (f : α → Converting β) (s : Session) :
    (x >>= f).outcome s = match x.outcome s with
      | (.ok a, t) => (f a).outcome t
      | (.error fault, t) => (.error fault, t) := by
  show (ExceptT.bindCont f (x.outcome s).1 : StateM Session (Except ConversionFault β))
    (x.outcome s).2 = _
  rcases x.outcome s with ⟨r, t⟩
  cases r with
  | ok a => rfl
  | error fault => rfl

/-! ## Conditions on what steps do -/

/-- Whether a step from a session ends as the first condition says, or breaks off as the second one
says. -/
def Meets (s : Session) (x : Converting α) (onEnd : α → Session → Prop)
    (onFault : ConversionFault → Session → Prop) : Prop :=
  match x.outcome s with
  | (.ok a, t) => onEnd a t
  | (.error fault, t) => onFault fault t

namespace Meets

variable {s t : Session} {onEnd : α → Session → Prop} {onFault : ConversionFault → Session → Prop}

theorem pure {a : α} (h : onEnd a s) : Meets s (Pure.pure a) onEnd onFault := h

theorem throw {fault : ConversionFault} (h : onFault fault s) :
    Meets s (MonadExcept.throw fault) onEnd onFault := h

theorem get {f : Session → Converting α} (h : Meets s (f s) onEnd onFault) :
    Meets s (MonadState.get >>= f) onEnd onFault := h

theorem bind {x : Converting β} {f : β → Converting α} {between : β → Session → Prop}
    (hx : Meets s x between onFault)
    (hf : ∀ b t, between b t → Meets t (f b) onEnd onFault) :
    Meets s (x >>= f) onEnd onFault := by
  rw [Meets] at hx ⊢
  rw [outcome_bind]
  rcases hOutcome : x.outcome s with ⟨r, t⟩
  rw [hOutcome] at hx
  cases r with
  | ok b => exact hf b t hx
  | error fault => exact hx

theorem imp {x : Converting α} {onEnd' : α → Session → Prop}
    {onFault' : ConversionFault → Session → Prop} (hx : Meets s x onEnd onFault)
    (hEnd : ∀ a t, onEnd a t → onEnd' a t)
    (hFault : ∀ fault t, onFault fault t → onFault' fault t) : Meets s x onEnd' onFault' := by
  rw [Meets] at hx ⊢
  rcases hOutcome : x.outcome s with ⟨r, t⟩
  rw [hOutcome] at hx
  cases r with
  | ok a => exact hEnd a t hx
  | error fault => exact hFault fault t hx

theorem and {x : Converting α} {onEnd' : α → Session → Prop}
    {onFault' : ConversionFault → Session → Prop} (hx : Meets s x onEnd onFault)
    (hx' : Meets s x onEnd' onFault') :
    Meets s x (fun a t => onEnd a t ∧ onEnd' a t)
      fun fault t => onFault fault t ∧ onFault' fault t := by
  rw [Meets] at hx hx' ⊢
  rcases hOutcome : x.outcome s with ⟨r, t⟩
  rw [hOutcome] at hx hx'
  cases r with
  | ok a => exact ⟨hx, hx'⟩
  | error fault => exact ⟨hx, hx'⟩

/-- A step that never breaks off ends well. -/
theorem exists_ok {x : Converting α} (h : Meets s x onEnd fun _ _ => False) :
    ∃ a t, onEnd a t ∧ x.outcome s = (.ok a, t) := by
  rw [Meets] at h
  rcases hOutcome : x.outcome s with ⟨r, t⟩
  rw [hOutcome] at h
  cases r with
  | ok a => exact ⟨a, t, h, rfl⟩
  | error fault => exact h.elim

/-- A step of which it is known that it ends well. -/
theorem after {x : Converting β} {f : β → Converting α} {b : β} (h : x.outcome s = (.ok b, t))
    (hf : Meets t (f b) onEnd onFault) : Meets s (x >>= f) onEnd onFault := by
  rw [Meets, outcome_bind, h]
  exact hf

theorem stopAt {fault : Option ConversionFault} {onEnd : Unit → Session → Prop}
    (hEnd : fault = none → onEnd () s) (hFault : ∀ f, fault = some f → onFault f s) :
    Meets s (stopAt fault) onEnd onFault := by
  cases fault with
  | none => exact hEnd rfl
  | some fault => exact hFault fault rfl

theorem keep {x : Noted α} (h : onEnd x.value { s with notes := s.notes ++ x.notes }) :
    Meets s (keep x) onEnd onFault := h

theorem setStore {f : Unit → Converting α} {store : Store}
    (h : Meets { s with effect.store := store } (f ()) onEnd onFault) :
    Meets s (setStore store >>= f) onEnd onFault := after rfl h

end Meets

/-! ## Steps that change nothing -/

/-- Whether a step keeps a condition on sessions, however it ends, and only breaks off with faults
of a kind. -/
def Keeps (I : Session → Prop) (J : ConversionFault → Prop) (x : Converting α) : Prop :=
  ∀ s, I s → Meets s x (fun _ t => I t) fun fault t => J fault ∧ I t

namespace Keeps

variable {I : Session → Prop} {J : ConversionFault → Prop}

theorem pure (a : α) : Keeps I J (Pure.pure a) := fun _ hs => Meets.pure hs

theorem throw {fault : ConversionFault} (h : J fault) :
    Keeps I J (MonadExcept.throw fault : Converting α) := fun _ hs => Meets.throw ⟨h, hs⟩

theorem get {f : Session → Converting β} (hf : ∀ s, Keeps I J (f s)) :
    Keeps I J (MonadState.get >>= f) := fun s hs => Meets.get (hf s s hs)

theorem bind {x : Converting α} {f : α → Converting β} (hx : Keeps I J x)
    (hf : ∀ a, Keeps I J (f a)) : Keeps I J (x >>= f) :=
  fun s hs => (hx s hs).bind fun a t ht => hf a t ht

theorem stopAt {fault : Option ConversionFault} (h : ∀ f, fault = some f → J f) :
    Keeps I J (stopAt fault) := fun _ hs => Meets.stopAt (fun _ => hs) fun f hf => ⟨h f hf, hs⟩

end Keeps

/-- Whether nothing is changed in a session, and a condition holds of all notes so far. -/
structure IsUntouched (P : Note → Prop) (before : Effect) (s : Session) : Prop where
  effect : s.effect = before
  notes : ∀ n ∈ s.notes, P n

theorem IsUntouched.start (P : Note → Prop) (before : Effect) : IsUntouched P before ⟨before, []⟩ :=
  ⟨rfl, fun _ hn => absurd hn List.not_mem_nil⟩

theorem keeps_keep {P : Note → Prop} {before : Effect} {J : ConversionFault → Prop} {x : Noted α}
    (hx : x.All P) : Keeps (IsUntouched P before) J (keep x) :=
  fun _ hs => Meets.keep ⟨hs.effect, List.forall_mem_append.2 ⟨hs.notes, hx⟩⟩

end Converting

section Prepare

variable {P : Note → Prop} {I : Session → Prop} {J : ConversionFault → Prop} {before : Effect}

theorem keeps_readSource {input : Path} (h : ∀ fault, J (.inputUnread input fault)) :
    Keeps I J (readSource input) := by
  refine Keeps.get fun s => ?_
  split
  · exact Keeps.pure _
  · exact Keeps.throw (h _)

theorem keeps_parseSource (h : ∀ fault words, J (.document fault words)) (content : List UInt8) :
    Keeps I J (parseSource content) := by
  unfold parseSource
  split
  · exact Keeps.pure _
  · exact Keeps.get fun s => Keeps.throw (h _ _)

/-- All that comes before the module is put out changes nothing.  It notes that the file is
converted and what is noted for the module, and it breaks off if a path cannot be used, if the file
cannot be read, if it holds no document, and if the size cannot be written. -/
theorem keeps_prepare {settings : Settings} {input : Path} {output : Option Path}
    (hInfo : P ⟨.info, "Converting file: " ++ input.text⟩)
    (hModule : ∀ root, (sourceModule settings input.name root).All P)
    (hPaths : ∀ store fault, pathFault? store input output = some fault → J fault)
    (hRead : ∀ fault, J (.inputUnread input fault))
    (hDocument : ∀ fault words, J (.document fault words)) (hSize : J .longSize) :
    Keeps (IsUntouched P before) J (prepare settings input output) := by
  refine Keeps.get fun s => (Keeps.stopAt (hPaths s.effect.store)).bind fun _ => ?_
  refine (keeps_keep (Noted.All.note hInfo)).bind fun _ => ?_
  refine (keeps_readSource hRead).bind fun content => ?_
  refine (keeps_parseSource hDocument content).bind fun root => ?_
  refine (keeps_keep (hModule root)).bind fun code => ?_
  refine (Keeps.stopAt fun fault hFault => ?_).bind fun _ => Keeps.pure _
  split at hFault
  · exact Option.some.inj hFault ▸ hSize
  · exact nomatch hFault

end Prepare

/-! ## What is prepared -/

/-- The paths of a conversion can be used if they lead to a file that may be read and, where there
is one, to a directory that may be written. -/
theorem pathFault?_eq_none_iff {store : Store} {input : Path} {output : Option Path} :
    pathFault? store input output = none ↔
      store.refusal? input = none ∧ store.isFile input = true ∧ store.isReadable input = true ∧
        ∀ directory, output = some directory → store.refusal? directory = none ∧
          store.isDirectory directory = true ∧ store.isWritable directory = true := by
  unfold pathFault?
  cases store.refusal? input with
  | some fault => simp
  | none =>
    cases store.isFile input with
    | false => simp
    | true =>
      cases store.isReadable input with
      | false => simp
      | true =>
        cases output with
        | none => simp
        | some directory =>
          cases hRefused : store.refusal? directory with
          | some fault => simp [hRefused]
          | none =>
            by_cases hDirectory : store.isDirectory directory = true
            · simp [hRefused, hDirectory]
            · simp [hRefused, hDirectory]

/-- Whether a module is the one of a file: the paths can be used, the size can be written, and the
file holds the document. -/
structure IsPrepared (settings : Settings) (store : Store) (input : Path) (output : Option Path)
    (prepared : Prepared) : Prop where
  paths : pathFault? store input output = none
  size : (writtenInteger? settings.defaultSize).isSome = true
  content : store.read input = .ok prepared.content
  document : ∃ root, readDocument prepared.content = .ok root ∧
    prepared.code = (sourceModule settings input.name root).value ∧
    prepared.lone = loneIn settings input.name root

theorem readSource_meets (input : Path) (s : Session) :
    Meets s (readSource input) (fun content _ => s.effect.store.read input = .ok content)
      fun _ _ => True := by
  refine Meets.get ?_
  split
  · next content hContent => exact Meets.pure hContent
  · exact Meets.throw True.intro

theorem parseSource_meets (content : List UInt8) (s : Session) :
    Meets s (parseSource content) (fun root _ => readDocument content = .ok root)
      fun _ _ => True := by
  unfold parseSource
  split
  · next root hRoot => exact Meets.pure hRoot
  · exact Meets.get (Meets.throw True.intro)

/-- What is prepared is the module of the file. -/
theorem prepare_meets (settings : Settings) (input : Path) (output : Option Path) (s : Session) :
    Meets s (prepare settings input output)
      (fun prepared _ => IsPrepared settings s.effect.store input output prepared)
      fun _ _ => True := by
  refine Meets.get ?_
  have hStop : Meets s (stopAt (pathFault? s.effect.store input output))
      (fun _ t => t = s ∧ pathFault? s.effect.store input output = none) fun _ _ => True :=
    Meets.stopAt (fun hNone => ⟨rfl, hNone⟩) fun _ _ => True.intro
  refine hStop.bind fun _ t ht => ?_
  obtain ⟨rfl, hNone⟩ := ht
  have hInfo : Meets t (keep (Noted.note .info ("Converting file: " ++ input.text)))
      (fun _ u => u.effect = t.effect) fun _ _ => True := Meets.keep rfl
  refine hInfo.bind fun _ u hu => ?_
  refine (readSource_meets input u).bind fun content v hContent => ?_
  rw [hu] at hContent
  refine (parseSource_meets content v).bind fun root w hRoot => ?_
  have hCode : Meets w (keep (sourceModule settings input.name root))
      (fun code _ => code = (sourceModule settings input.name root).value) fun _ _ => True :=
    Meets.keep rfl
  refine hCode.bind fun code x hCode => ?_
  have hSize : Meets x
      (stopAt (if (writtenInteger? settings.defaultSize).isNone then some .longSize else none))
      (fun _ _ => (writtenInteger? settings.defaultSize).isSome = true) fun _ _ => True :=
    Meets.stopAt (fun hWritten => by simpa [Option.isSome_iff_ne_none] using hWritten)
      fun _ _ => True.intro
  refine hSize.bind fun _ _ hWritten => ?_
  exact Meets.pure ⟨hNone, hWritten, hContent, root, hRoot, hCode, rfl⟩

/-! ## Putting out a module -/

/-- What a session is when a module has been put out. -/
inductive Delivered (prepared : Prepared) (s : Session) : Option Path → Session → Prop
  | printed :
    Delivered prepared s none
      { s with effect.printed := s.effect.printed ++ prepared.code }
  | written (path : Path) (l : Location) (h : s.effect.store.opened path = .ok l) :
    Delivered prepared s (some path)
      { s with
        effect.store := s.effect.store.put l (Utf8.encode prepared.code.toList)
        notes := s.notes ++ [⟨.info, writtenInfo path⟩] }
  | unopened (path : Path) (fault : PathFault) (h : s.effect.store.opened path = .error fault) :
    Delivered prepared s (some path)
      { s with notes := s.notes ++ [⟨.error, unwrittenError path (fault.message path)⟩] }
  | broken (path : Path) (l : Location) (size : Nat) (fault : PathFault)
    (h : s.effect.store.opened path = .ok l)
    (hBreak : s.effect.store.breaks (s.effect.store.put l []).files l
      (Utf8.encode prepared.code.toList) = some (size, fault)) :
    Delivered prepared s (some path)
      { s with
        effect.store := s.effect.store.put l ((Utf8.encode prepared.code.toList).take size)
        notes := s.notes ++ [⟨.error, unwrittenError path fault.words⟩] }

/-- What a session is when a module could not be put out: nothing is changed, or the file of the
module is empty since code points of it cannot be written. -/
inductive Undelivered (prepared : Prepared) (s : Session) :
    Option Path → ConversionFault → Session → Prop
  | unchanged (target : Option Path) (fault : ConversionFault) :
    Undelivered prepared s target fault s
  | emptied (path : Path) (l : Location) (run : CodeText.LoneRun)
    (h : s.effect.store.opened path = .ok l) (hLone : prepared.lone = some run) :
    Undelivered prepared s (some path) (.unencodable run)
      { s with effect.store := s.effect.store.put l [] }

/-- What there is when a file has been opened and written to. -/
theorem Store.fill_put (store : Store) (l : Location) (content : List UInt8) :
    (store.put l []).fill l content =
      match store.breaks (store.put l []).files l content with
      | some (size, fault) => (store.put l (content.take size), some fault)
      | none => (store.put l content, none) := by
  unfold fill
  simp only [put_put]
  rfl

theorem delivered_fillFile {path : Path} {l : Location} {s : Session} (prepared : Prepared)
    (h : s.effect.store.opened path = .ok l) :
    Meets s (fillFile path l prepared) (fun _ t => Delivered prepared s (some path) t)
      (Undelivered prepared s (some path)) := by
  refine Meets.get (Meets.setStore ?_)
  generalize hEmpty : ({ s with effect.store := s.effect.store.put l [] } : Session) = empty
  have hStop : Meets empty (stopAt (prepared.lone.map .unencodable)) (fun _ t => t = empty)
      (Undelivered prepared s (some path)) := by
    refine Meets.stopAt (fun _ => rfl) fun fault hFault => ?_
    obtain ⟨run, hLone, rfl⟩ := Option.map_eq_some_iff.1 hFault
    exact hEmpty ▸ Undelivered.emptied path l run h hLone
  refine hStop.bind fun _ t ht => ?_
  subst ht hEmpty
  refine Meets.get ?_
  have hFill := Store.fill_put s.effect.store l (Utf8.encode prepared.code.toList)
  dsimp only
  generalize (s.effect.store.put l []).fill l (Utf8.encode prepared.code.toList) = filled at hFill ⊢
  refine Meets.setStore ?_
  cases hBreak : s.effect.store.breaks (s.effect.store.put l []).files l
      (Utf8.encode prepared.code.toList) with
  | none =>
    rw [hBreak] at hFill
    subst hFill
    exact Meets.keep (Delivered.written path l h)
  | some broken =>
    rw [hBreak] at hFill
    subst hFill
    exact Meets.keep (Delivered.broken path l broken.1 broken.2 h hBreak)

/-- A module is put out once, or the step breaks off before anything of it is written. -/
theorem delivered_deliver (target : Option Path) (prepared : Prepared) (s : Session) :
    Meets s (deliver target prepared) (fun _ t => Delivered prepared s target t)
      (Undelivered prepared s target) := by
  have hStop (fault : Option ConversionFault) : Meets s (stopAt fault) (fun _ t => t = s)
      (Undelivered prepared s target) := Meets.stopAt (fun _ => rfl) fun _ _ => .unchanged _ _
  cases target with
  | none =>
    refine (hStop _).bind fun _ t ht => ?_
    subst ht
    exact Delivered.printed
  | some path =>
    refine (hStop _).bind fun _ t ht => ?_
    subst ht
    refine Meets.get ?_
    split
    · next l hOpened => exact delivered_fillFile prepared hOpened
    · next fault hOpened => exact Meets.keep (Delivered.unopened path fault hOpened)

/-! ## Comparing names -/

/-- What a module misses of its document, if that is asked for. -/
def differencesFor (settings : Settings) (document code : String) : List String :=
  if settings.validate then Comparison.differences document code else []

/-- The comparison of names always ends well and only notes what the module misses. -/
theorem compareNames_outcome (settings : Settings) (document code : String) (s : Session) :
    (compareNames settings document code).outcome s =
      (.ok (differencesFor settings document code),
        { s with
          notes := s.notes ++ (differencesFor settings document code).map fun (text : String) =>
            ⟨.warning, text⟩ }) := by
  unfold compareNames differencesFor
  by_cases hValidate : settings.validate = true
  · rw [if_pos hValidate, if_pos hValidate, Comparison.differences?_eq_some]
    rfl
  · rw [if_neg hValidate, if_neg hValidate, List.map_nil, List.append_nil]
    rfl

/-! ## Whole conversions -/

/-- What there is when a conversion ends with a result: the module of the file has been put out by a
session that had changed nothing, and then only warnings were noted. -/
inductive Completed (settings : Settings) (before : Effect) (input : Path) (output : Option Path)
    (c : Conversion) : Effect → Prop
  | intro (prepared : Prepared) (s t : Session) (differences : List String)
    (hPrepared : IsPrepared settings before.store input output prepared)
    (hs : IsUntouched Note.IsAboutCalls before s)
    (ht : Delivered prepared s (output.map (outputPath input · settings.extension)) t)
    (hPath : c.path = input) (hCode : c.code = prepared.code)
    (hNotes : c.notes = t.notes ++ differences.map fun (text : String) => ⟨.warning, text⟩) :
    Completed settings before input output c t.effect

/-- What there is when a conversion ends without a result: nothing is changed, or the file of the
module is empty since code points of it cannot be written. -/
inductive Stopped (settings : Settings) (before : Effect) (input : Path) :
    Option Path → ConversionFault → Effect → Prop
  | unchanged (output : Option Path) (fault : ConversionFault) :
    Stopped settings before input output fault before
  | emptied (directory : Path) (l : Location) (run : CodeText.LoneRun)
    (hPaths : pathFault? before.store input (some directory) = none)
    (h : before.store.opened (outputPath input directory settings.extension) = .ok l)
    (hLone : ∃ root, loneIn settings input.name root = some run) :
    Stopped settings before input (some directory) (.unencodable run)
      { before with store := before.store.put l [] }

theorem stopped_of_undelivered {settings : Settings} {before : Effect} {input : Path}
    {output : Option Path} {prepared : Prepared} {s t : Session} {fault : ConversionFault}
    (hPrepared : IsPrepared settings before.store input output prepared) (hs : s.effect = before)
    (h : Undelivered prepared s (output.map (outputPath input · settings.extension)) fault t) :
    Stopped settings before input output fault t.effect := by
  subst hs
  generalize hTarget : output.map (outputPath input · settings.extension) = target at h
  cases h with
  | unchanged => exact .unchanged _ _
  | emptied path l run h hLone =>
    obtain ⟨directory, rfl, rfl⟩ := Option.map_eq_some_iff.1 hTarget
    obtain ⟨root, -, -, hRoot⟩ := hPrepared.document
    exact .emptied directory l run hPrepared.paths h ⟨root, hRoot ▸ hLone⟩

theorem converting_meets (settings : Settings) (before : Effect) (input : Path)
    (output : Option Path) :
    Meets ⟨before, []⟩ (converting settings input output)
      (fun c t => Completed settings before input output c t.effect)
      fun fault t => Stopped settings before input output fault t.effect := by
  have hKeeps : Keeps (IsUntouched Note.IsAboutCalls before) (fun _ => True)
      (prepare settings input output) :=
    keeps_prepare (Note.isAboutCalls_of_ne (by decide) _) (allAboutCalls_assemble _ _ _)
      (fun _ _ _ => True.intro) (fun _ => True.intro) (fun _ _ => True.intro) True.intro
  have hPrepare := (hKeeps _ (IsUntouched.start _ before)).and
    (prepare_meets settings input output ⟨before, []⟩)
  refine (hPrepare.imp (fun _ _ hr => hr) fun fault t ht => ?_).bind fun prepared s hr => ?_
  · rw [ht.1.2.effect]
    exact .unchanged _ _
  obtain ⟨hs, hPrepared⟩ := hr
  have hDeliver := delivered_deliver (output.map (outputPath input · settings.extension)) prepared s
  refine (hDeliver.imp (fun _ _ ht => ht) fun fault t ht => ?_).bind fun _ t ht => ?_
  · exact stopped_of_undelivered hPrepared hs.effect ht
  have hCompare := compareNames_outcome settings (String.ofList (Utf8.decodeLossy prepared.content))
    prepared.code t
  refine Meets.after hCompare (Meets.get (Meets.pure ?_))
  exact Completed.intro prepared s t _ hPrepared hs ht rfl rfl rfl

/-- A conversion is completed, or it ends without a result. -/
theorem convertFile_meets (settings : Settings) (before : Effect) (input : Path)
    (output : Option Path) :
    match convertFile settings before input output with
    | (.ok c, after) => Completed settings before input output c after
    | (.error failed, after) => Stopped settings before input output failed.fault after := by
  have hConvert := converting_meets settings before input output
  rw [Meets] at hConvert
  unfold convertFile
  rcases hOutcome : (converting settings input output).outcome ⟨before, []⟩ with ⟨r, t⟩
  rw [hOutcome] at hConvert
  cases r with
  | ok c => exact hConvert
  | error fault => exact hConvert

section Outcome

variable {settings : Settings} {before after : Effect} {input : Path} {output : Option Path}

theorem completed_of_convertFile {c : Conversion}
    (h : convertFile settings before input output = (.ok c, after)) :
    Completed settings before input output c after := by
  have hMeets := convertFile_meets settings before input output
  rwa [h] at hMeets

theorem stopped_of_convertFile {failed : Failed}
    (h : convertFile settings before input output = (.error failed, after)) :
    Stopped settings before input output failed.fault after := by
  have hMeets := convertFile_meets settings before input output
  rwa [h] at hMeets

end Outcome

/-! ## Errors about files -/

/-- Whether there is an error about a module that cannot be written. -/
def Conversion.isUnwritten (c : Conversion) : Bool :=
  (Note.texts .error c.notes).any (beginsWith unwrittenOpening)

theorem texts_unwrittenError (path : Path) (words : String) :
    (Note.texts .error [⟨.error, unwrittenError path words⟩]).any (beginsWith unwrittenOpening) =
      true := by
  have hText : (unwrittenError path words).shown =
      unwrittenOpening ++ (path.text.shown ++ ": " ++ words) := by
    simp [unwrittenError, String.append_assoc]
  simp [Note.texts, Note.text, hText]

theorem not_beginsWith_unsupportedError (call : Call) :
    beginsWith unwrittenOpening call.unsupportedError = false :=
  beginsWith_append_eq_false (by decide) (by decide) _

theorem Converting.IsUntouched.not_unwritten {before : Effect} {s : Session}
    (h : IsUntouched Note.IsAboutCalls before s) :
    (Note.texts .error s.notes).any (beginsWith unwrittenOpening) = false := by
  rw [List.any_eq_false]
  intro text hText
  obtain ⟨n, hn, rfl⟩ := List.mem_map.1 hText
  obtain ⟨hMem, hLevel⟩ := List.mem_filter.1 hn
  obtain ⟨call, -, hCall⟩ := h.notes n hMem (by simpa using hLevel)
  rw [hCall, not_beginsWith_unsupportedError]
  exact Bool.false_ne_true

theorem texts_error_warnings (differences : List String) :
    Note.texts .error (differences.map fun (text : String) => ⟨.warning, text⟩) = [] := by
  apply Note.texts_eq_nil
  intro n hn
  obtain ⟨text, -, rfl⟩ := List.mem_map.1 hn
  exact Level.noConfusion

namespace Completed

variable {settings : Settings} {before after : Effect} {input : Path} {c : Conversion}

/-- A module that is printed changes no file. -/
theorem of_printed (h : Completed settings before input none c after) :
    after.store = before.store ∧ after.printed = before.printed ++ c.code := by
  obtain ⟨prepared, s, t, differences, -, hs, ht, -, hCode, -⟩ := h
  obtain ⟨effect, notes⟩ := s
  obtain rfl : effect = before := hs.effect
  rw [Option.map_none] at ht
  cases ht with
  | printed => exact ⟨rfl, by rw [hCode]⟩

/-- A module that is written has no error about it, and is announced.  Otherwise nothing is changed,
or writing to the open file has broken off. -/
theorem of_written {directory : Path}
    (h : Completed settings before input (some directory) c after) :
    (c.isUnwritten = true ∧ (after = before ∨ ∃ l size fault,
        before.store.opened (outputPath input directory settings.extension) = .ok l ∧
        before.store.breaks (before.store.put l []).files l (Utf8.encode c.code.toList) =
          some (size, fault) ∧
        after = { before with
          store := before.store.put l ((Utf8.encode c.code.toList).take size) })) ∨
      (c.isUnwritten = false ∧
        writtenInfo (outputPath input directory settings.extension) ∈
          Note.spellings .info c.notes ∧
        ∃ l, before.store.opened (outputPath input directory settings.extension) = .ok l ∧
          after = { before with store := before.store.put l (Utf8.encode c.code.toList) }) := by
  obtain ⟨prepared, s, t, differences, -, hs, ht, -, hCode, hNotes⟩ := h
  have hBefore := hs.not_unwritten
  have hErrors : Note.texts .error c.notes = Note.texts .error t.notes := by
    rw [hNotes, Note.texts_append, texts_error_warnings, List.append_nil]
  obtain ⟨effect, notes⟩ := s
  obtain rfl : effect = before := hs.effect
  rw [Conversion.isUnwritten, hErrors, hCode]
  generalize hTarget : (some directory).map (outputPath input · settings.extension) = target at ht
  obtain rfl := hTarget
  cases ht with
  | written path l h =>
    refine .inr ⟨?_, ?_, l, h, rfl⟩
    · rw [Note.texts_append, List.any_append, hBefore]
      rfl
    · rw [hNotes, Note.spellings_append, Note.spellings_append]
      exact List.mem_append_left _ (List.mem_append_right _ (List.mem_singleton_self _))
  | unopened path fault h =>
    refine .inl ⟨?_, .inl rfl⟩
    rw [Note.texts_append, List.any_append, texts_unwrittenError, Bool.or_true]
  | broken path l size fault h hBreak =>
    refine .inl ⟨?_, .inr ⟨l, size, fault, h, hBreak, rfl⟩⟩
    rw [Note.texts_append, List.any_append, texts_unwrittenError, Bool.or_true]

end Completed

/-- Whether writing to an open file never breaks off. -/
def Store.WritesWhole (store : Store) : Prop :=
  ∀ files l content, store.breaks files l content = none

/-- A conversion that ends without a result changes nothing if the header and the name of the file
are of characters.  Without a directory for the output the module is printed and no file is changed.
With a directory nothing is printed, and the one file that can change is the one of the module: it
holds the module then, which is noted, or else there is an error about it, and nothing is changed if
writing to an open file does not break off. -/
theorem convertFile_changes (settings : Settings) (before : Effect) (input : Path) :
    ((headerText settings).isWhole = true → input.name.isWhole = true → ∀ output failed after,
      convertFile settings before input output = (.error failed, after) → after = before) ∧
    (∀ c after, convertFile settings before input none = (.ok c, after) →
      after.store = before.store ∧ after.printed = before.printed ++ c.code) ∧
    ∀ directory c after, convertFile settings before input (some directory) = (.ok c, after) →
      after.printed = before.printed ∧
      (c.isUnwritten = true → before.store.WritesWhole → after = before) ∧
      (c.isUnwritten = false →
        writtenInfo (outputPath input directory settings.extension) ∈
          Note.spellings .info c.notes ∧
        ∃ l, before.store.locate (outputPath input directory settings.extension) = .ok l ∧
          after.store.file? l = some (Utf8.encode c.code.toList) ∧
          (∀ k, k ≠ l → after.store.file? k = before.store.file? k) ∧
          after.store = { before.store with files := after.store.files }) := by
  refine ⟨?_, ?_, ?_⟩
  · intro hHeader hName output failed after h
    have hStopped := stopped_of_convertFile h
    generalize failed.fault = fault at hStopped
    cases hStopped with
    | unchanged => rfl
    | emptied directory l run hPaths hOpened hLone =>
      obtain ⟨root, hLone⟩ := hLone
      rw [loneIn_eq_none hHeader hName] at hLone
      exact nomatch hLone
  · intro c after h
    exact (completed_of_convertFile h).of_printed
  · intro directory c after h
    rcases (completed_of_convertFile h).of_written with
      ⟨hUnwritten, hAfter⟩ | ⟨hWritten, hInfo, l, hOpened, rfl⟩
    · refine ⟨?_, fun _ hWhole => ?_, fun hWritten => absurd hUnwritten (by simp [hWritten])⟩
      · rcases hAfter with rfl | ⟨l, size, fault, -, -, rfl⟩
        · rfl
        · rfl
      · rcases hAfter with rfl | ⟨l, size, fault, -, hBreak, -⟩
        · rfl
        · rw [hWhole] at hBreak
          exact nomatch hBreak
    · refine ⟨rfl, fun hUnwritten => absurd hUnwritten (by simp [hWritten]), fun _ => ?_⟩
      refine ⟨hInfo, l, (Store.eq_ok_of_opened hOpened).1, ?_, ?_, rfl⟩
      · show (before.store.put l _).file? l = _
        simp [Store.file?_put]
      · intro k hk
        show (before.store.put l _).file? k = _
        simp [Store.file?_put, hk]

/-- A file to convert, and a directory for its module. -/
def workStore : Store :=
  ((Store.empty ["work"]).addDirectory (Path.read "out")).addFile (Path.read "a.svg")
    (Utf8.encode "<svg viewBox='0 0 1 1'/>".toList)

/-- A conversion of a file there, without a comparison of names. -/
def convertThere (input : String) (output : Option String) : Except Failed Conversion × Effect :=
  convertFile { Settings.default with validate := false } (Effect.start workStore)
    (Path.read input) (output.map fun (text : String) => Path.read text)

/-- Whether a conversion has a result, and its module, if it was to be written, is written. -/
def isConverted : Except Failed Conversion × Effect → Bool
  | (.ok c, _) => !c.isUnwritten
  | (.error _, _) => false

theorem exists_of_isConverted {r : Except Failed Conversion × Effect} (h : isConverted r = true) :
    ∃ c after, r = (.ok c, after) ∧ c.isUnwritten = false := by
  obtain ⟨outcome, after⟩ := r
  cases outcome with
  | ok c => exact ⟨c, after, rfl, by simpa [isConverted] using h⟩
  | error failed => exact nomatch h

/-- A file that is not there, the file there without a directory for the output, and with it. -/
theorem convertFile_changes_workStore :
    (∃ failed, convertThere "b.svg" (some "out") =
      (.error failed, Effect.start workStore)) ∧
    (∃ c after, convertThere "a.svg" none = (.ok c, after) ∧ after.store = workStore) ∧
    ∃ c after, convertThere "a.svg" (some "out") = (.ok c, after) ∧ after.printed = "" ∧
      after.store.file? ["work", "out", "a.scala"] = some (Utf8.encode c.code.toList) ∧
      after.store.file? ["work", "a.svg"] = workStore.file? ["work", "a.svg"] := by
  have hChanges := fun input =>
    convertFile_changes { Settings.default with validate := false } (Effect.start workStore) input
  refine ⟨?_, ?_, ?_⟩
  · have hFails : (convertThere "b.svg" (some "out")).1.isOk = false := by decide +kernel
    rcases hResult : convertThere "b.svg" (some "out") with ⟨outcome, after⟩
    rw [hResult] at hFails
    cases outcome with
    | ok c => exact nomatch hFails
    | error failed =>
      obtain rfl := (hChanges _).1 (by decide +kernel) (by decide +kernel) _ failed after hResult
      exact ⟨failed, rfl⟩
  · obtain ⟨c, after, hResult, -⟩ := exists_of_isConverted
      (by decide +kernel : isConverted (convertThere "a.svg" none) = true)
    exact ⟨c, after, hResult, ((hChanges _).2.1 c after hResult).1⟩
  · obtain ⟨c, after, hResult, hWritten⟩ := exists_of_isConverted
      (by decide +kernel : isConverted (convertThere "a.svg" (some "out")) = true)
    obtain ⟨hPrinted, -, hFile⟩ := (hChanges _).2.2 _ c after hResult
    obtain ⟨-, l, hLocate, hContent, hOthers, -⟩ := hFile hWritten
    have hTarget : workStore.locate (outputPath (Path.read "a.svg") (Path.read "out") "scala") =
        .ok ["work", "out", "a.scala"] := by decide +kernel
    obtain rfl := Except.ok.inj (hLocate.symm.trans hTarget)
    exact ⟨c, after, hResult, hPrinted, hContent, hOthers _ (by decide)⟩

end SvgBuilder
