import Localize.Text.Fields
import Localize.Text.Quoted

/-! Paths as they are spelled, and their components. Two spellings with the same components name the
same path. -/

namespace Localize

structure Path where
  spelled : Text
  deriving DecidableEq, Repr, Inhabited

namespace Path

def ofString (s : String) : Path := ⟨s.toList⟩

inductive Component where
  | root
  | here
  | up
  | name (t : Text)
  deriving DecidableEq, Repr

def separator : Char := '/'

def isAbsolute (p : Path) : Bool := p.spelled.head? = some separator

/-- A leading `.` counts as a component of a relative path. -/
def startsHere (p : Path) : Bool :=
  match p.spelled with
  | ['.'] => true
  | '.' :: '/' :: _ => true
  | _ => false

def anchor (p : Path) : Text :=
  if p.isAbsolute || p.startsHere then p.spelled.take 1 else []

/-- What lies between the separators after the anchor. -/
def segments (p : Path) : List Text := Text.fields separator (p.spelled.drop p.anchor.length)

/-- Empty segments and `.` name nothing. -/
def isIdle (segment : Text) : Bool := segment == [] || segment == ['.']

def Component.ofSegment (segment : Text) : Component :=
  if segment = ['.', '.'] then .up else .name segment

def anchorComponents (p : Path) : List Component :=
  if p.isAbsolute then [.root] else if p.startsHere then [.here] else []

def components (p : Path) : List Component :=
  p.anchorComponents ++ (p.segments.filter fun s => !isIdle s).map Component.ofSegment

/-- Both spellings have the same components. -/
def Same (p q : Path) : Prop := p.components = q.components

instance (p q : Path) : Decidable (Same p q) := inferInstanceAs (Decidable (_ = _))

/-- An absolute path stands for itself, a relative one continues `p`. -/
def join (p q : Path) : Path :=
  if q.isAbsolute || p.spelled = [] then q
  else if p.spelled.getLast? = some separator then ⟨p.spelled ++ q.spelled⟩
  else ⟨p.spelled ++ separator :: q.spelled⟩

def joinSegments (segments : List Text) : Text := Text.joined [separator] segments

def dropIdleStart (segments : List Text) : List Text := segments.dropWhile isIdle

def dropIdleEnd (segments : List Text) : List Text :=
  (segments.reverse.dropWhile isIdle).reverse

def parent? (p : Path) : Option Path :=
  match dropIdleEnd p.segments with
  | [] => if p.startsHere then some ⟨[]⟩ else none
  | s :: ss => some ⟨p.anchor ++ joinSegments (dropIdleEnd (s :: ss).dropLast)⟩

theorem exists_dropIdleEnd_append (segments : List Text) :
    ∃ idle, segments = dropIdleEnd segments ++ idle :=
  ⟨(segments.reverse.takeWhile isIdle).reverse, by
    rw [dropIdleEnd, ← List.reverse_append, List.takeWhile_append_dropWhile, List.reverse_reverse]⟩

theorem getLast_dropIdleEnd_ne_nil {segments : List Text} (h : dropIdleEnd segments ≠ []) :
    (dropIdleEnd segments).getLast h ≠ [] := by
  intro hnil
  have hr : segments.reverse.dropWhile isIdle ≠ [] := by simpa [dropIdleEnd] using h
  have hlast : (segments.reverse.dropWhile isIdle).head hr = [] := by
    simpa [dropIdleEnd, List.getLast_reverse] using hnil
  have := List.head_dropWhile_not isIdle hr
  rw [hlast] at this
  simp [isIdle] at this

theorem length_parent?_lt {p q : Path} (h : p.parent? = some q) :
    q.spelled.length < p.spelled.length := by
  have hjoin := Text.joined_fields separator (p.spelled.drop p.anchor.length)
  have hlen : p.anchor.length + (p.spelled.drop p.anchor.length).length = p.spelled.length := by
    have : p.anchor.length ≤ p.spelled.length := by
      unfold anchor
      split
      · rw [List.length_take]; exact Nat.min_le_right _ _
      · exact Nat.zero_le _
    simp; omega
  unfold parent? at h
  split at h
  · split at h
    · rename_i hs
      cases h
      unfold startsHere at hs
      split at hs <;> simp_all
    · simp at h
  · rename_i s ss hs
    cases h
    have hne : dropIdleEnd p.segments ≠ [] := by rw [hs]; simp
    have hlast := getLast_dropIdleEnd_ne_nil hne
    obtain ⟨idle, hidle⟩ := exists_dropIdleEnd_append p.segments
    obtain ⟨idle', hidle'⟩ := exists_dropIdleEnd_append (dropIdleEnd p.segments).dropLast
    have h1 := Text.length_joined_append_ge [separator] (dropIdleEnd p.segments) idle
    rw [← hidle] at h1
    have h2 := Text.length_joined_append_ge [separator] (dropIdleEnd p.segments).dropLast
      [(dropIdleEnd p.segments).getLast hne]
    rw [List.dropLast_concat_getLast] at h2
    have h3 := Text.length_joined_append_ge [separator]
      (dropIdleEnd (dropIdleEnd p.segments).dropLast) idle'
    rw [← hidle'] at h3
    rw [Text.joined_singleton] at h2
    have h4 := List.length_pos_iff.2 hlast
    rw [← hs]
    change (p.anchor ++ joinSegments _).length < _
    rw [segments] at h1
    rw [hjoin] at h1
    simp only [List.length_append, joinSegments]
    simp only [segments] at h2 h3 h4 ⊢
    omega

/-- The path itself, then its parent, and so on until there is none. -/
def ancestors (p : Path) : List Path :=
  match _h : p.parent? with
  | none => [p]
  | some q => p :: ancestors q
termination_by p.spelled.length
decreasing_by exact length_parent?_lt _h

/-- Drops one component after another from the front of the segments. -/
def dropComponents : List Component → List Text → Option (List Text)
  | [], segments => some segments
  | c :: cs, segments =>
    match dropIdleStart segments with
    | [] => none
    | s :: rest => if Component.ofSegment s = c then dropComponents cs rest else none

/-- The spelling of `p` after the components of `base`, if they come first in `p`. -/
def stripBase? (p base : Path) : Option Path :=
  match base.components with
  | [] => some ⟨p.anchor ++ joinSegments (dropIdleEnd p.segments)⟩
  | c :: cs =>
    let remaining :=
      match p.anchorComponents with
      | [] => dropComponents (c :: cs) p.segments
      | a :: _ => if a = c then dropComponents cs p.segments else none
    remaining.map fun segments => ⟨joinSegments (dropIdleEnd (dropIdleStart segments))⟩

/-- Drops every leading `./`. -/
def dropHere : Text → Text
  | '.' :: '/' :: rest => dropHere rest
  | t => t

def quoted (p : Path) : Text := Text.quoted p.spelled

end Path
end Localize
