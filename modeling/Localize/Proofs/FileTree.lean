import Localize.FileTree
import Localize.Proofs.Failure
import Localize.Proofs.Text

/-! Writing over a file changes what it holds and nothing else: all paths lead where they led, and
every other file keeps its bytes. -/

namespace Localize

/-- What is there, whatever a file holds. -/
def Node.shape : Node → Node
  | .file _ => .file .empty
  | node => node

def Spot.shape : Spot → Spot
  | .present l node => .present l node.shape
  | spot => spot

namespace FileTree

/-- The segment leads to what it names in the directory. -/
structure IsName (s : Text) : Prop where
  notIdle : ¬ Path.isIdle s = true
  notUp : s ≠ ['.', '.']
  short : ¬ nameLimit < Text.byteSize s

instance (s : Text) : Decidable (IsName s) :=
  decidable_of_iff (¬ Path.isIdle s = true ∧ s ≠ ['.', '.'] ∧ ¬ nameLimit < Text.byteSize s)
    ⟨fun h => ⟨h.1, h.2.1, h.2.2⟩, fun h => ⟨h.notIdle, h.notUp, h.short⟩⟩

section Walk

variable {tree : FileTree} {links : Nat} {cur : Location} {s : Text} {ss : List Text}
  {bytes : ByteArray}

theorem walk_idle (h : Path.isIdle s = true) :
    tree.walk links cur (s :: ss) = tree.walk links cur ss := by
  rw [walk, if_pos h]

theorem walk_up : tree.walk links cur (['.', '.'] :: ss) = tree.walk links cur.dropLast ss := by
  rw [walk, if_neg (by decide), if_pos rfl]

theorem walk_directory (hs : IsName s) (hnode : tree.node? (cur ++ [s]) = some .directory) :
    tree.walk links cur (s :: ss) = tree.walk links (cur ++ [s]) ss := by
  rw [walk, if_neg hs.notIdle, if_neg hs.notUp, if_neg hs.short, hnode]

theorem walk_file (hs : IsName s) (hnode : tree.node? (cur ++ [s]) = some (.file bytes)) :
    tree.walk links cur (s :: ss) =
      if ss.isEmpty then .ok (.present (cur ++ [s]) (.file bytes)) else .error .notADirectory := by
  rw [walk, if_neg hs.notIdle, if_neg hs.notUp, if_neg hs.short, hnode]

theorem walk_link {target : Text} (hs : IsName s)
    (hnode : tree.node? (cur ++ [s]) = some (.link target)) :
    tree.walk (links + 1) cur (s :: ss) =
      tree.walk links (if (Path.mk target).isAbsolute then [] else cur)
        (Text.fields Path.separator target ++ ss) := by
  rw [walk, if_neg hs.notIdle, if_neg hs.notUp, if_neg hs.short, hnode]

theorem walk_missing (hs : IsName s) (hnode : tree.node? (cur ++ [s]) = none) :
    tree.walk links cur [s] = .ok (.absent (cur ++ [s]) false) := by
  rw [walk, if_neg hs.notIdle, if_neg hs.notUp, if_neg hs.short, hnode]
  rfl

/-- A file of a directory of the root. -/
theorem walk_file_of_directory {name : Text} (hs : IsName s) (hname : IsName name)
    (hdirectory : tree.node? [s] = some .directory)
    (hfile : tree.node? [s, name] = some (.file bytes)) :
    tree.walk links [] [[], s, name] = .ok (.present [s, name] (.file bytes)) := by
  rw [walk_idle rfl, walk_directory hs hdirectory]
  exact walk_file hname hfile

end Walk

/-- The directories, the links and the files without what they hold. -/
def shape (tree : FileTree) : FileTree :=
  { tree with entries := tree.entries.map fun (l, node) => (l, node.shape) }

theorem lookup_map_shape (l : Location) (entries : List (Location × Node)) :
    (entries.map fun (l, node) => (l, node.shape)).lookup l =
      (entries.lookup l).map Node.shape := by
  induction entries with
  | nil => rfl
  | cons entry entries ih =>
    obtain ⟨l', node⟩ := entry
    simp only [List.map_cons, List.lookup_cons]
    cases l == l' with
    | true => rfl
    | false => exact ih

theorem node?_shape (tree : FileTree) (l : Location) :
    tree.shape.node? l = (tree.node? l).map Node.shape := by
  unfold node?
  split
  · rfl
  · exact lookup_map_shape l tree.entries

/-- A walk does not look into files. -/
theorem walk_shape (tree : FileTree) (links : Nat) (cur : Location) (todo : List Text) :
    tree.shape.walk links cur todo = (tree.walk links cur todo).map Spot.shape := by
  fun_induction walk tree links cur todo with
  | case1 links cur => rw [walk]; rfl
  | case2 links cur s ss hidle ih => rw [walk, if_pos hidle, ih]
  | case3 links cur ss hidle ih => rw [walk, if_neg hidle, if_pos rfl, ih]
  | case4 links cur s ss hidle hup hlong => rw [walk, if_neg hidle, if_neg hup, if_pos hlong]; rfl
  | case5 links cur s ss hidle hup hshort hnode hempty =>
    rw [walk, if_neg hidle, if_neg hup, if_neg hshort, node?_shape, hnode]
    exact if_pos hempty
  | case6 links cur s ss hidle hup hshort hnode hempty =>
    rw [walk, if_neg hidle, if_neg hup, if_neg hshort, node?_shape, hnode]
    exact if_neg hempty
  | case7 links cur s ss hidle hup hshort hnode ih =>
    rw [walk, if_neg hidle, if_neg hup, if_neg hshort, node?_shape, hnode]
    exact ih
  | case8 links cur s ss hidle hup hshort bytes hnode hempty =>
    rw [walk, if_neg hidle, if_neg hup, if_neg hshort, node?_shape, hnode]
    exact if_pos hempty
  | case9 links cur s ss hidle hup hshort bytes hnode hempty =>
    rw [walk, if_neg hidle, if_neg hup, if_neg hshort, node?_shape, hnode]
    exact if_neg hempty
  | case10 cur s ss hidle hup hshort target hnode =>
    rw [walk, if_neg hidle, if_neg hup, if_neg hshort, node?_shape, hnode]
    rfl
  | case11 cur s ss hidle hup hshort target hnode n ih =>
    rw [walk, if_neg hidle, if_neg hup, if_neg hshort, node?_shape, hnode]
    simp only [dite_eq_ite] at ih
    exact ih

theorem find_shape (tree : FileTree) (p : Path) :
    tree.shape.find p = (tree.find p).map Spot.shape := by
  unfold find
  split
  · rfl
  · split
    · rfl
    · split
      · rfl
      · exact walk_shape tree _ _ _

theorem node?_of_walk {tree : FileTree} {links : Nat} {cur l : Location} {todo : List Text}
    {bytes : ByteArray} (h : tree.walk links cur todo = .ok (.present l (.file bytes))) :
    tree.node? l = some (.file bytes) := by
  fun_induction walk tree links cur todo with
  | case1 => cases h
  | case2 links cur s ss hidle ih => exact ih h
  | case3 links cur ss hidle ih => exact ih h
  | case4 => cases h
  | case5 => cases h
  | case6 => cases h
  | case7 links cur s ss hidle hup hshort hnode ih => exact ih h
  | case8 links cur s ss hidle hup hshort bytes' hnode hempty => cases h; exact hnode
  | case9 => cases h
  | case10 => cases h
  | case11 cur s ss hidle hup hshort target hnode n ih =>
    exact ih (by simpa only [dite_eq_ite] using h)

theorem walk_of_find {tree : FileTree} {p : Path} {spot : Spot} (h : tree.find p = .ok spot) :
    tree.walk linkLimit [] (Text.fields Path.separator p.spelled) = .ok spot := by
  unfold find at h
  split at h
  · cases h
  · split at h
    · cases h
    · split at h
      · cases h
      · exact h

theorem node?_of_find {tree : FileTree} {p : Path} {l : Location} {bytes : ByteArray}
    (h : tree.find p = .ok (.present l (.file bytes))) : tree.node? l = some (.file bytes) :=
  node?_of_walk (walk_of_find h)

/-- Trees of one shape have the same files, and the same paths lead to them. -/
theorem exists_find_of_shape_eq {tree tree' : FileTree} {p : Path} {l : Location}
    {bytes : ByteArray} (hshape : tree'.shape = tree.shape)
    (h : tree.find p = .ok (.present l (.file bytes))) :
    ∃ bytes', tree'.find p = .ok (.present l (.file bytes')) := by
  have hfind : (tree'.find p).map Spot.shape = .ok (.present l (.file .empty)) := by
    rw [← find_shape, hshape, find_shape, h]
    rfl
  match hp : tree'.find p with
  | .error e => rw [hp] at hfind; cases hfind
  | .ok (.absent l' d) => rw [hp] at hfind; cases hfind
  | .ok (.present l' .directory) => rw [hp] at hfind; cases hfind
  | .ok (.present l' (.link target)) => rw [hp] at hfind; cases hfind
  | .ok (.present l' (.file bytes')) =>
    rw [hp] at hfind
    cases hfind
    exact ⟨bytes', rfl⟩

theorem lookup_putEntry (l l' : Location) (node : Node) (entries : List (Location × Node)) :
    (putEntry l node entries).lookup l' =
      if l' = l then some node else entries.lookup l' := by
  have hbeq (k : Location) : (l' == k) = decide (l' = k) := by
    by_cases h : l' = k <;> simp [h]
  induction entries with
  | nil =>
    rw [putEntry, List.lookup_cons, hbeq]
    by_cases h : l' = l <;> simp [h]
  | cons entry entries ih =>
    obtain ⟨k, old⟩ := entry
    rw [putEntry]
    by_cases hk : k = l
    · rw [if_pos hk, List.lookup_cons, List.lookup_cons, hk, hbeq]
      by_cases h : l' = l <;> simp [h]
    · rw [if_neg hk, List.lookup_cons, List.lookup_cons, ih, hbeq]
      by_cases h : l' = k
      · simp [h, hk]
      · simp [h]

theorem node?_put (tree : FileTree) {l : Location} (hl : l ≠ []) (l' : Location) (node : Node) :
    (tree.put l node).node? l' = if l' = l then some node else tree.node? l' := by
  unfold node? put
  by_cases h : l' = []
  · rw [if_pos h, if_pos h, if_neg (h ▸ hl.symm)]
  · rw [if_neg h, if_neg h, lookup_putEntry]

theorem ne_nil_of_node? {tree : FileTree} {l : Location} {bytes : ByteArray}
    (h : tree.node? l = some (.file bytes)) : l ≠ [] := by
  rintro rfl
  cases h

theorem shape_put {tree : FileTree} {l : Location} {old : ByteArray}
    (h : tree.node? l = some (.file old)) (bytes : ByteArray) :
    (tree.put l (.file bytes)).shape = tree.shape := by
  rw [node?, if_neg (ne_nil_of_node? h)] at h
  unfold shape put
  congr 1
  generalize tree.entries = entries at h ⊢
  induction entries with
  | nil => cases h
  | cons entry entries ih =>
    obtain ⟨k, node⟩ := entry
    rw [putEntry]
    by_cases hk : k = l
    · rw [List.lookup_cons, hk, beq_self_eq_true] at h
      cases h
      rw [if_pos hk, hk]
      rfl
    · have hne : (l == k) = false := by simpa using fun he : l = k => hk he.symm
      rw [List.lookup_cons, hne] at h
      rw [if_neg hk, List.map_cons, List.map_cons, ih h]

theorem isFile_iff {tree : FileTree} {p : Path} :
    tree.isFile p = true ↔ ∃ l bytes, tree.find p = .ok (.present l (.file bytes)) := by
  unfold isFile
  split
  · rename_i l bytes h
    exact ⟨fun _ => ⟨l, bytes, h⟩, fun _ => rfl⟩
  · rename_i hnot
    exact ⟨nofun, fun ⟨l, bytes, h⟩ => absurd h (hnot l bytes)⟩

theorem opened_of_shape_eq {tree tree' : FileTree} (h : tree'.shape = tree.shape) (l : Location) :
    tree'.opened l = tree.opened l := by
  have hclosed : tree'.closed = tree.closed := congrArg (·.closed) h
  rw [opened, opened, hclosed]

/-- A path leads to a file at `l`, and the file can be opened and holds the text. -/
def Holds (tree : FileTree) (p : Path) (l : Location) (content : Text) : Prop :=
  ∃ bytes, tree.find p = .ok (.present l (.file bytes)) ∧ tree.opened l = .ok () ∧
    Text.decode? bytes = some content

theorem holds_of_readText {tree : FileTree} {p : Path} {content : Text}
    (h : tree.readText p = .ok content) : ∃ l, tree.Holds p l content := by
  unfold readText read at h
  split at h
  · rename_i bytes hread
    split at hread
    · rename_i l _ hfind
      obtain ⟨_, hopened, hbytes⟩ := bind_eq_ok_iff.1 hread
      cases hbytes
      refine ⟨l, bytes, hfind, hopened, ?_⟩
      split at h
      · rename_i t hdecode
        cases h
        exact hdecode
      · cases h
    all_goals cases hread
  · cases h

theorem Holds.unique {tree : FileTree} {p : Path} {l l' : Location} {content content' : Text}
    (h : tree.Holds p l content) (h' : tree.Holds p l' content') :
    l = l' ∧ content = content' := by
  obtain ⟨bytes, hfind, -, hdecode⟩ := h
  obtain ⟨bytes', hfind', -, hdecode'⟩ := h'
  rw [hfind] at hfind'
  cases hfind'
  exact ⟨rfl, Option.some.inj (hdecode.symm.trans hdecode')⟩

theorem isFile_of_holds {tree : FileTree} {p : Path} {l : Location} {content : Text}
    (h : tree.Holds p l content) : tree.isFile p = true :=
  let ⟨bytes, hfind, _⟩ := h
  isFile_iff.2 ⟨l, bytes, hfind⟩

theorem readText_of_holds {tree : FileTree} {p : Path} {l : Location} {content : Text}
    (h : tree.Holds p l content) : tree.readText p = .ok content := by
  obtain ⟨bytes, hfind, hopened, hdecode⟩ := h
  have hread : tree.read p = .ok bytes := by
    rw [read, hfind]
    exact bind_eq_ok_iff.2 ⟨(), hopened, rfl⟩
  rw [readText, hread]
  simp only [hdecode]

def oneFile (content : Text) : FileTree :=
  { entries := [(["a.tsx".toList], .file (Text.encode content))] }

theorem oneFile_holds (content : Text) :
    (oneFile content).Holds ⟨"/a.tsx".toList⟩ ["a.tsx".toList] content := by
  refine ⟨Text.encode content, ?_, rfl, Text.decode?_encode content⟩
  change (oneFile content).walk linkLimit [] [[], "a.tsx".toList] = _
  rw [walk_idle rfl]
  exact walk_file (by decide) rfl

theorem writeText_of_holds {tree : FileTree} {p : Path} {l : Location} {old : Text}
    (h : tree.Holds p l old) (new : Text) :
    tree.writeText p new = .ok (tree.put l (.file (Text.encode new))) := by
  obtain ⟨bytes, hfind, hopened, -⟩ := h
  rw [writeText, write, hfind]
  exact bind_eq_ok_iff.2 ⟨(), hopened, rfl⟩

theorem shape_put_of_holds {tree : FileTree} {p : Path} {l : Location} {old : Text}
    (h : tree.Holds p l old) (bytes : ByteArray) :
    (tree.put l (.file bytes)).shape = tree.shape := by
  obtain ⟨_, hfind, -⟩ := h
  exact shape_put (node?_of_find hfind) bytes

/-- What was written over a file is there when it is read. -/
theorem holds_put {tree : FileTree} {p : Path} {l : Location} {old : Text}
    (h : tree.Holds p l old) (new : Text) :
    (tree.put l (.file (Text.encode new))).Holds p l new := by
  have hshape := shape_put_of_holds h (Text.encode new)
  obtain ⟨bytes, hfind, hopened, -⟩ := h
  obtain ⟨bytes', hfind'⟩ := exists_find_of_shape_eq hshape hfind
  have hnode := node?_of_find hfind'
  rw [node?_put tree (ne_nil_of_node? (node?_of_find hfind)), if_pos rfl] at hnode
  cases hnode
  exact ⟨_, hfind', hopened, Text.decode?_encode new⟩

end FileTree
end Localize
