import SvgBuilder.File.Path
import SvgBuilder.Number.Digits
import SvgBuilder.OrderedMap

/-!
# Stores of files

A store holds files and directories at locations, which are the names on the way from the root.
It also knows where relative paths begin, in which order directories are listed, what is said to be
unreadable or unwritable, and what the system refuses.  A path is followed name by name through
directories that may be searched; two points lead back to the directory around, and a link leads
where it leads in the end.  So a file can have several paths, but it has one location.  A file keeps
what is written into it; there are no devices.

A file is written in two steps.  When it is opened it becomes empty, and what is written to it then
may break off.

## Main results

* `file?_put`, `put_put`: a file is found where it is put, the others stay as they are, and what is
  put last counts.
* `eq_ok_of_opened`: a file that can be opened for writing is where its path leads to, and there is
  no directory.
-/

namespace SvgBuilder

open SvgBuilder.Number SvgBuilder.Text

/-- The names on the way to a file or a directory. -/
abbrev Location := List CodeText

/-! ## Faults -/

/-- Why a path cannot be used. -/
inductive PathFault where
  | missing
  | notDirectory
  | isDirectory
  | nameTooLong
  /-- Anything else that the system has against it, by its number and its words. -/
  | system (number : Nat) (words : String)
  deriving DecidableEq, Repr

/-- The fault of a directory that may not be searched. -/
def PathFault.denied : PathFault := .system 13 "Permission denied"

/-- The number and the words of a fault. -/
def PathFault.words : PathFault → String
  | .missing => "[Errno 2] No such file or directory"
  | .notDirectory => "[Errno 20] Not a directory"
  | .isDirectory => "[Errno 21] Is a directory"
  | .nameTooLong => "[Errno 36] File name too long"
  | .system number words => "[Errno " ++ integerText number ++ "] " ++ words

/-- Why a path cannot be used, in words. -/
def PathFault.message (fault : PathFault) (path : Path) : String :=
  fault.words ++ ": " ++ path.text.quoted

/-- Whether a path with this fault leads nowhere.  That is also said of a bad descriptor and of
links that lead to each other; of all other faults nothing is said. -/
def PathFault.isIgnored : PathFault → Bool
  | .missing => true
  | .notDirectory => true
  | .isDirectory => false
  | .nameTooLong => false
  | .system number _ => number = 9 || number = 40

/-- Why a file cannot be read. -/
inductive ReadFault where
  /-- It cannot be opened. -/
  | opening (fault : PathFault)
  /-- Reading it breaks off. -/
  | amid (fault : PathFault)
  deriving DecidableEq, Repr

/-- What the system has against it. -/
def ReadFault.fault : ReadFault → PathFault
  | .opening fault => fault
  | .amid fault => fault

/-- Why a file cannot be read, in words.  An open file is not known by its path. -/
def ReadFault.message (path : Path) : ReadFault → String
  | .opening fault => fault.message path
  | .amid fault => fault.words

/-! ## Stores -/

/-- In which order the names in a directory are listed. -/
structure ListingOrder where
  arrange : Location → List CodeText → List CodeText
  perm (l : Location) (names : List CodeText) : (arrange l names).Perm names

/-- The order of code points. -/
def ListingOrder.byCodes : ListingOrder where
  arrange := fun _ names => names.mergeSort fun a b => !decide (b < a)
  perm := fun _ names => List.mergeSort_perm names _

/-- Files and directories. -/
structure Store where
  /-- Where relative paths begin. -/
  here : Location
  files : List (Location × List UInt8)
  directories : List Location
  /-- The names that are links, and where they lead in the end.  A further name of a file counts as
  a link to it. -/
  links : List (Location × Except PathFault Location) := []
  /-- The directories in which no name may be looked up. -/
  unsearchable : List Location := []
  /-- What is said to be unreadable. -/
  unreadable : List Location := []
  /-- What is said to be unwritable. -/
  unwritable : List Location := []
  /-- What cannot be read although its path can be followed, and why. -/
  readFaults : List (Location × ReadFault) := []
  /-- What cannot be opened for writing although its path can be followed, and why. -/
  writeFaults : List (Location × PathFault) := []
  /-- Whether writing a content to an open file breaks off, among the files that there are: behind
  how many bytes, and why. -/
  breaks : List (Location × List UInt8) → Location → List UInt8 → Option (Nat × PathFault) :=
    fun _ _ _ => none
  order : ListingOrder := .byCodes

/-- The most bytes of a name. -/
def maxNameSize : Nat := 255

/-- The most bytes of a path. -/
def maxPathSize : Nat := 4095

/-- Whether a path holds a code point that no path may hold. -/
def Path.isBroken (p : Path) : Bool :=
  p.text.codes.contains 0 || p.text.loneRunInName?.isSome

namespace Store

/-- The locations on the way to a location, and itself. -/
def ways (l : Location) : List Location := (List.range l.length).map fun n => l.take (n + 1)

/-- Nothing but the directory where relative paths begin and those around it. -/
def empty (here : Location) : Store := { here, files := [], directories := ways here }

/-- The content of the file at a location. -/
def file? (store : Store) (l : Location) : Option (List UInt8) := store.files.lookup l

/-- Whether there is a directory at a location. -/
def isDirectoryAt (store : Store) (l : Location) : Bool := l.isEmpty || l ∈ store.directories

/-- Puts a file at a location. -/
def put (store : Store) (l : Location) (content : List UInt8) : Store :=
  { store with files := OrderedMap.put l content store.files }

theorem file?_put (store : Store) (l k : Location) (content : List UInt8) :
    (store.put l content).file? k = if k == l then some content else store.file? k :=
  OrderedMap.lookup_put l k content store.files

theorem put_put (store : Store) (l : Location) (first last : List UInt8) :
    (store.put l first).put l last = store.put l last := by
  simp only [put, OrderedMap.put_put]

/-! ## Following paths -/

/-- Follows one name from a location. -/
def enter (store : Store) (l : Location) (name : CodeText) : Except PathFault Location :=
  if store.isDirectoryAt l then
    if l ∈ store.unsearchable then .error .denied
    else if name = ".." then .ok l.dropLast
    else if maxNameSize < name.size then .error .nameTooLong
    else (store.links.lookup (l ++ [name])).getD (.ok (l ++ [name]))
  else if (store.file? l).isSome then .error .notDirectory
  else .error .missing

/-- Where a path begins. -/
def origin (store : Store) (path : Path) : Location := if path.root = "" then store.here else []

/-- The location that a path leads to.  There need not be anything. -/
def locate (store : Store) (path : Path) : Except PathFault Location :=
  if maxPathSize < path.text.size then .error .nameTooLong
  else path.names.foldlM store.enter (store.origin path)

/-- Why it cannot be told whether a path leads anywhere. -/
def refusal? (store : Store) (path : Path) : Option PathFault :=
  if path.isBroken then none
  else
    match store.locate path with
    | .error fault => if fault.isIgnored then none else some fault
    | .ok _ => none

/-- The location of a file or a directory that a path leads to. -/
def found? (store : Store) (path : Path) : Option Location :=
  if path.isBroken then none
  else
    (store.locate path).toOption.filter fun l => (store.file? l).isSome || store.isDirectoryAt l

/-- Whether a path leads to a file or a directory. -/
def isThere (store : Store) (path : Path) : Bool := (store.found? path).isSome

/-- Whether a path leads to a file. -/
def isFile (store : Store) (path : Path) : Bool :=
  (store.found? path).any fun l => !store.isDirectoryAt l

/-- Whether a path leads to a directory. -/
def isDirectory (store : Store) (path : Path) : Bool :=
  (store.found? path).any store.isDirectoryAt

/-- Whether what a path leads to may be read. -/
def isReadable (store : Store) (path : Path) : Bool :=
  (store.found? path).any (· ∉ store.unreadable)

/-- Whether what a path leads to may be written. -/
def isWritable (store : Store) (path : Path) : Bool :=
  (store.found? path).any (· ∉ store.unwritable)

/-! ## Reading and writing -/

/-- The content of the file that a path leads to. -/
def read (store : Store) (path : Path) : Except ReadFault (List UInt8) :=
  match store.locate path with
  | .error fault => .error (.opening fault)
  | .ok l =>
    if store.isDirectoryAt l then .error (.opening .isDirectory)
    else
      match store.readFaults.lookup l, store.file? l with
      | some fault, _ => .error fault
      | none, some content => .ok content
      | none, none => .error (.opening .missing)

/-- The location of the file that a path leads to, if it can be opened for writing. -/
def opened (store : Store) (path : Path) : Except PathFault Location := do
  let l ← store.locate path
  if store.isDirectoryAt l then throw .isDirectory
  match store.writeFaults.lookup l with
  | some fault => throw fault
  | none => pure l

/-- Writes a content to an open file.  What is in front of the place where that breaks off stays. -/
def fill (store : Store) (l : Location) (content : List UInt8) : Store × Option PathFault :=
  match store.breaks store.files l content with
  | some (size, fault) => (store.put l (content.take size), some fault)
  | none => (store.put l content, none)

/-- The name of a location directly inside another one. -/
def nameIn? (outer l : Location) : Option CodeText :=
  match l.getLast? with
  | some name => if l.dropLast = outer then some name else none
  | none => none

/-- All locations of a store. -/
def locations (store : Store) : List Location :=
  store.files.map (·.1) ++ store.directories ++ store.links.map (·.1)

/-- The names in a directory, as they are listed. -/
def namesIn (store : Store) (l : Location) : List CodeText :=
  store.order.arrange l (store.locations.filterMap (nameIn? l)).eraseDups

/-- The paths of what is in a directory, as they are listed. -/
def list (store : Store) (path : Path) : Except PathFault (List Path) := do
  let l ← store.locate path
  match store.readFaults.lookup l with
  | some fault => throw fault.fault
  | none => pure ((store.namesIn l).map fun name => ⟨path.root, path.names ++ [name]⟩)

/-! ## Filling a store -/

/-- The location that a path stands for by its names alone. -/
def location (store : Store) (path : Path) : Location :=
  path.names.foldl (fun l (name : CodeText) => if name = ".." then l.dropLast else l ++ [name])
    (store.origin path)

/-- Adds a directory and those around it. -/
def addDirectory (store : Store) (path : Path) : Store :=
  { store with directories := store.directories ++ ways (store.location path) }

/-- Adds a file and the directories around it. -/
def addFile (store : Store) (path : Path) (content : List UInt8) : Store :=
  let l := store.location path
  { store with directories := store.directories ++ ways l.dropLast }.put l content

/-- A file that can be opened for writing is where its path leads to, and there is no directory. -/
theorem eq_ok_of_opened {store : Store} {path : Path} {l : Location}
    (h : store.opened path = .ok l) :
    store.locate path = .ok l ∧ store.isDirectoryAt l = false := by
  unfold opened at h
  cases hl : store.locate path with
  | error fault => simp [bind, Except.bind, hl] at h
  | ok m =>
    simp only [bind, Except.bind, hl] at h
    split at h
    · exact nomatch h
    · next hFile =>
      dsimp only [pure, Except.pure] at h
      split at h
      · exact nomatch h
      · obtain rfl := Except.ok.inj h
        exact ⟨rfl, Bool.eq_false_iff.2 hFile⟩

end Store

end SvgBuilder
