import BenchCharts.Chart.Drawing
import BenchCharts.Files.Path
import BenchCharts.Text.Utf8

namespace BenchCharts.Files
open Text

abbrev Name := List UInt8

abbrev Place := List Name

inductive Content where
  | bytes (data : List UInt8)
  | drawing (picture : Drawing)

def Content.data : Content → List UInt8
  | .bytes data => data
  | .drawing picture => Utf8.encode picture.svg

inductive Entry where
  | directory
  | file (content : Content)

instance (entry : Option Entry) : Decidable (entry = some .directory) :=
  match entry with
  | none => isFalse (by simp)
  | some .directory => isTrue rfl
  | some (.file _) => isFalse (by simp)

def entryAt (entries : List (Place × Entry)) (place : Place) : Option Entry :=
  if place = [] then some .directory else (entries.find? (·.1 == place)).map (·.2)

def entering (entries : List (Place × Entry)) (place : Place) (entry : Entry) : List (Place × Entry) :=
  if place ∈ entries.map (·.1) then entries.map fun (p, e) => if p = place then (p, entry) else (p, e)
  else entries ++ [(place, entry)]

section Entering

variable {entries : List (Place × Entry)} {place other : Place} {entry : Entry}

theorem places_over (entries : List (Place × Entry)) (place : Place) (entry : Entry) :
    (entries.map fun (p, e) => if p = place then (p, entry) else (p, e)).map (·.1) = entries.map (·.1) := by
  rw [List.map_map]
  apply List.map_congr_left
  rintro ⟨p, e⟩ _
  by_cases same : p = place <;> simp [same]

theorem entering_unique (unique : (entries.map (·.1)).Nodup) : ((entering entries place entry).map (·.1)).Nodup := by
  unfold entering
  split
  · rw [places_over]
    exact unique
  · rename_i absent
    rw [List.map_append, List.nodup_append]
    refine ⟨unique, by simp, ?_⟩
    intro a old b new same
    cases List.mem_singleton.mp (by simpa using new)
    exact absent (same ▸ old)

theorem at_over (place other : Place) (entry : Entry) :
    ((fun row : Place × Entry => row.1 == other) ∘ fun (p, e) => if p = place then (p, entry) else (p, e)) =
      fun row => row.1 == other := by
  funext ⟨p, e⟩
  by_cases same : p = place <;> simp [same]

theorem find_entering (differ : other ≠ place) :
    (entering entries place entry).find? (·.1 == other) = entries.find? (·.1 == other) := by
  unfold entering
  split
  · rw [List.find?_map, at_over]
    cases found : entries.find? (·.1 == other) with
    | none => rfl
    | some row =>
      have here : row.1 = other := by simpa using List.find?_some found
      have away : row.1 ≠ place := here ▸ differ
      simp [away]
  · rw [List.find?_append]
    have miss : (place == other) = false := by simpa using fun same => differ same.symm
    simp [miss]

theorem entryAt_entering (differ : other ≠ place) :
    entryAt (entering entries place entry) other = entryAt entries other := by
  unfold entryAt
  rw [find_entering differ]

end Entering

-- Every place is entered once, and the working directory is there.
structure Tree where
  entries : List (Place × Entry)
  here : Place
  unique : (entries.map (·.1)).Nodup
  entered : entryAt entries here = some .directory

namespace Tree

def empty : Tree := ⟨[], [], List.nodup_nil, rfl⟩

def at? (t : Tree) (place : Place) : Option Entry := entryAt t.entries place

def places (t : Tree) : List Place := t.entries.map (·.1)

-- A directory is never replaced, so that the working directory stays one.
def put (t : Tree) (place : Place) (entry : Entry) : Tree :=
  if blocked : t.at? place = some .directory then t
  else
    ⟨entering t.entries place entry, t.here, entering_unique t.unique, by
      have differ : t.here ≠ place := by
        rintro rfl
        exact blocked t.entered
      rw [entryAt_entering differ]
      exact t.entered⟩

def enter (t : Tree) (place : Place) : Tree :=
  if entered : t.at? place = some .directory then { t with here := place, entered } else t

-- The root is above itself.
def step (t : Tree) (place : Place) (name : String) : Except Obstacle Place :=
  match t.at? place with
  | none => .error .missing
  | some (.file _) => .error .notDirectory
  | some .directory =>
    if name = "" ∨ name = "." then .ok place
    else if name = ".." then .ok place.dropLast
    else .ok (place ++ [Utf8.encode name])

def walk (t : Tree) (place : Place) : List String → Except Obstacle Place
  | [] => .ok place
  | name :: rest => do t.walk (← t.step place name) rest

def origin (t : Tree) (path : String) : Place := if path.startsWith "/" then [] else t.here

def resolve (t : Tree) (path : String) : Except Obstacle Place :=
  if path.isEmpty then .error .missing else t.walk (t.origin path) (steps path)

def find (t : Tree) (path : String) : Except Obstacle (Place × Entry) := do
  let place ← t.resolve path
  match t.at? place with
  | some entry => .ok (place, entry)
  | none => .error .missing

def holds (t : Tree) (path : String) : Bool := (t.find path).isOk

def list (t : Tree) (path : String) : Except Obstacle (List Name) := do
  match ← t.find path with
  | (_, .file _) => .error .notDirectory
  | (place, .directory) =>
    return t.places.filterMap fun p => if p.dropLast = place then p.getLast? else none

def read (t : Tree) (path : String) : Except Obstacle (List UInt8) := do
  match ← t.find path with
  | (_, .file content) => .ok content.data
  | (_, .directory) => .error .isDirectory

def write (t : Tree) (path : String) (content : Content) : Except Obstacle Tree := do
  if path.isEmpty then throw .missing
  let parts := (steps path).reverse
  let slash := parts.head? == some ""
  let place ← t.walk (t.origin path) (parts.dropWhile (·.isEmpty)).reverse
  match t.at? place with
  | some .directory => .error .isDirectory
  | some (.file _) => if slash then .error .notDirectory else .ok (t.put place (.file content))
  | none => if slash then .error .isDirectory else .ok (t.put place (.file content))

structure Halt where
  left : Tree
  obstacle : Obstacle

-- A file on the way cannot be stepped through, but behind a directory that was `made` it stands where one
-- is to be made.
def makeFrom (dotted : Bool) (made : Bool) (t : Tree) (place : Place) : List String → Except Halt Tree
  | [] => .ok t
  | name :: rest =>
    match t.step place name with
    | .error obstacle => .error ⟨t, obstacle⟩
    | .ok next =>
      match t.at? next with
      | some .directory => makeFrom dotted made t next rest
      | some (.file _) =>
        .error ⟨t, if (if rest.isEmpty then !dotted else made) then .occupied else .notDirectory⟩
      | none =>
        if rest.isEmpty && dotted then .error ⟨t, .missing⟩
        else makeFrom dotted true (t.put next .directory) next rest

def makeDirectories (t : Tree) (path : String) : Except Halt Tree :=
  if path.isEmpty then .ok t
  else
    let parts := (steps path).reverse
    makeFrom ((parts.takeWhile isIdle).contains ".") false t (t.origin path) (parts.dropWhile isIdle).reverse

def placeOf (t : Tree) (path : List UInt8) : Place :=
  let names := (path.splitBy fun a b => a != 47 && b != 47).filter fun name => name != [47] && name != [46]
  names.foldl (fun place name => if name = [46, 46] then place.dropLast else place ++ [name])
    (if path.head? = some 47 then [] else t.here)

def plant (t : Tree) (place : Place) (entry : Entry) : Tree :=
  let above := (List.range place.length).map place.take
  (above.foldl (fun t p => if (t.at? p).isSome then t else t.put p .directory) t).put place entry

def pathOf? (place : Place) : Option String :=
  (place.mapM Utf8.text?).map fun names => "/" ++ "/".intercalate names

end Tree
end BenchCharts.Files
