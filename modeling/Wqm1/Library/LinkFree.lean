import Wqm1.Library.Containment

/-! Paths on which no link stands: what is there tells where they lead. -/

set_option autoImplicit false

namespace Wqm1.Library.FileTree

/-- The places a path comes to by its text, those it climbs back to left out. -/
def visits (here : Place) : List String → List Place
  | [] => []
  | component :: rest =>
    if component = "" ∨ component = "." then visits here rest
    else if component = ".." then visits here.dropLast rest
    else (here ++ [component]) :: visits (here ++ [component]) rest

section

variable {links : List Place} {here place : Place} {path rest : List String}

theorem within_of_descends (descends : ".." ∉ path) : Within here path := by
  induction path generalizing here with
  | nil => trivial
  | cons component rest ih =>
    have down := List.ne_of_not_mem_cons descends
    have later := List.not_mem_of_not_mem_cons descends
    unfold Within
    split
    · exact ih later
    · rw [if_neg (Ne.symm down)]
      exact ih later

theorem within_append : Within here (path ++ rest) ↔ Within here path ∧ Within (lexical here path) rest := by
  induction path generalizing here with
  | nil => simp [Within, lexical]
  | cons component more ih =>
    simp only [List.cons_append, Within, lexical]
    split
    · exact ih
    · split
      · rw [ih, and_assoc]
      · exact ih

theorem avoids_append : Avoids links here (path ++ rest) ↔ Avoids links here path ∧ Avoids links (lexical here path) rest := by
  induction path generalizing here with
  | nil => simp [Avoids, lexical]
  | cons component more ih =>
    simp only [List.cons_append, Avoids, lexical]
    split
    · exact ih
    · split
      · exact ih
      · rw [ih, and_assoc]

theorem lexical_append (more : List String) : lexical here (path ++ more) = lexical (lexical here path) more := by
  induction path generalizing here with
  | nil => rfl
  | cons component rest ih =>
    simp only [List.cons_append, lexical]
    split
    · exact ih
    · split <;> exact ih

theorem visits_append (more : List String) :
    visits here (path ++ more) = visits here path ++ visits (lexical here path) more := by
  induction path generalizing here with
  | nil => rfl
  | cons component rest ih =>
    simp only [List.cons_append, visits, lexical]
    split
    · exact ih
    · split
      · exact ih
      · rw [ih, List.cons_append]

theorem lexical_name {name : String} (proper : name ≠ "" ∧ name ≠ "." ∧ name ≠ "..") :
    lexical here [name] = here ++ [name] := by
  simp [lexical, proper]

/-- A path that comes to no link ends at none, if it began at and below none. -/
theorem avoids_lexical (clear : ∀ above, above <+: here → above ∉ links) (avoids : Avoids links here path) :
    lexical here path ∉ links := by
  induction path generalizing here with
  | nil => exact clear here (List.prefix_refl here)
  | cons component rest ih =>
    unfold Avoids at avoids
    unfold lexical
    split
    next skipped => exact ih clear ((if_pos skipped).mp avoids)
    next named =>
      rw [if_neg named] at avoids
      split
      next up =>
        rw [if_pos up] at avoids
        exact ih (fun above prefixed => clear above (prefixed.trans (List.dropLast_prefix here))) avoids
      next down =>
        rw [if_neg down] at avoids
        refine ih (fun above prefixed => ?_) avoids.2
        rcases List.prefix_concat_iff.mp prefixed with same | shorter
        · rw [same]
          exact avoids.1
        · exact clear above shorter

theorem avoids_visits (avoids : Avoids links here path) (visited : place ∈ visits here path) : place ∉ links := by
  induction path generalizing here with
  | nil => cases visited
  | cons component rest ih =>
    unfold Avoids at avoids
    unfold visits at visited
    split at visited
    next skipped => exact ih ((if_pos skipped).mp avoids) visited
    next named =>
      rw [if_neg named] at avoids
      split at visited
      next up => exact ih ((if_pos up).mp avoids) visited
      next down =>
        rw [if_neg down] at avoids
        rcases List.mem_cons.mp visited with same | later
        · rw [same]
          exact avoids.1
        · exact ih avoids.2 later

theorem prefix_lexical (descends : ".." ∉ path) : here <+: lexical here path := by
  induction path generalizing here with
  | nil => exact List.prefix_refl here
  | cons component rest ih =>
    have down := List.ne_of_not_mem_cons descends
    have later := List.not_mem_of_not_mem_cons descends
    unfold lexical
    split
    · exact ih later
    · rw [if_neg (Ne.symm down)]
      exact (List.prefix_append ..).trans (ih later)

theorem visits_above (descends : ".." ∉ path) (visited : place ∈ visits here path) : place <+: lexical here path := by
  induction path generalizing here with
  | nil => cases visited
  | cons component rest ih =>
    have down := List.ne_of_not_mem_cons descends
    have later := List.not_mem_of_not_mem_cons descends
    unfold visits at visited
    unfold lexical
    split at visited
    next skipped =>
      rw [if_pos skipped]
      exact ih later visited
    next named =>
      rw [if_neg named, if_neg (Ne.symm down)]
      rw [if_neg (Ne.symm down)] at visited
      rcases List.mem_cons.mp visited with same | further
      · rw [same]
        exact prefix_lexical later
      · exact ih later further

/-- A name in the directory that a path leads to is none of the places on the path. -/
theorem visits_ne_name {name : String} (descends : ".." ∉ path) (visited : place ∈ visits here path) :
    place ≠ lexical here path ++ [name] := by
  intro same
  have shorter := (visits_above descends visited).length_le
  rw [same, List.length_append, List.length_singleton] at shorter
  omega

end

section

variable {Content Attributes : Type} {tree : FileTree Content Attributes} {root place : Place} {links : List Place}
  {below : Place} {path : List String} {name : String} {last : Bool}
  {follow : Place → List String → Except Errno Place}

/-- Where a lookup succeeds, everything on the way is there; only its end may be missing. -/
theorem walk_visits (aimed : Aimed root links tree) (descends : ".." ∉ path) (avoids : Avoids links below path)
    (reached : tree.walk follow last (root ++ below) path = .ok place) :
    ∀ visited ∈ visits below path, (tree.entry (root ++ visited)).isSome = true ∨ root ++ visited = place := by
  induction path generalizing below with
  | nil =>
    intro visited none
    cases none
  | cons component rest ih =>
    have down := List.ne_of_not_mem_cons descends
    have later := List.not_mem_of_not_mem_cons descends
    unfold Avoids at avoids
    unfold walk at reached
    unfold visits
    split at reached
    next skipped =>
      rw [if_pos skipped] at avoids ⊢
      exact ih later avoids reached
    next named =>
      rw [if_neg named, if_neg (Ne.symm down)] at avoids ⊢
      rw [if_neg (Ne.symm down), List.append_assoc] at reached
      intro visited member
      split at reached
      next missing =>
        split at reached
        next ended =>
          cases reached
          rw [ended] at member
          exact .inr (by rw [List.mem_singleton.mp member])
        next => cases reached
      next inode entry =>
        rcases List.mem_cons.mp member with same | further
        · rw [same, entry]
          exact .inl rfl
        · exact ih later avoids.2 reached visited further
      next inode entry =>
        split at reached
        next ended =>
          rw [ended] at member
          rw [List.mem_singleton.mp member, entry]
          exact .inl rfl
        next => cases reached
      next inode target entry => exact absurd (aimed _ _ _ entry).1 avoids.1

/-- Above a name that is looked up with success everything is a directory. -/
theorem walk_directories (aimed : Aimed root links tree) (descends : ".." ∉ path) (avoids : Avoids links below path)
    (reached : tree.walk follow last (root ++ below) (path ++ [name]) = .ok place) :
    ∀ visited ∈ visits below path, ∃ inode, tree.entry (root ++ visited) = some (.directory inode) := by
  induction path generalizing below with
  | nil =>
    intro visited none
    cases none
  | cons component rest ih =>
    have down := List.ne_of_not_mem_cons descends
    have later := List.not_mem_of_not_mem_cons descends
    rw [List.cons_append] at reached
    unfold Avoids at avoids
    unfold walk at reached
    unfold visits
    split at reached
    next skipped =>
      rw [if_pos skipped] at avoids ⊢
      exact ih later avoids reached
    next named =>
      rw [if_neg named, if_neg (Ne.symm down)] at avoids ⊢
      rw [if_neg (Ne.symm down), List.append_assoc] at reached
      intro visited member
      split at reached
      next => simp at reached
      next inode entry =>
        rcases List.mem_cons.mp member with same | further
        · exact ⟨inode, by rw [same, entry]⟩
        · exact ih later avoids.2 reached visited further
      next => simp at reached
      next inode target entry => exact absurd (aimed _ _ _ entry).1 avoids.1

/-- Through directories alone a name is always found. -/
theorem walk_of_directories (descends : ".." ∉ path) (proper : name ≠ "" ∧ name ≠ "." ∧ name ≠ "..")
    (directories : ∀ visited ∈ visits below path, ∃ inode, tree.entry (root ++ visited) = some (.directory inode)) :
    tree.walk follow false (root ++ below) (path ++ [name]) = .ok (root ++ (lexical below path ++ [name])) := by
  induction path generalizing below with
  | nil =>
    simp only [List.nil_append, walk, proper.1, proper.2.1, proper.2.2, or_self, ↓reduceIte, and_self]
    rw [List.append_assoc]
    unfold lexical
    split <;> rfl
  | cons component rest ih =>
    have down := List.ne_of_not_mem_cons descends
    have later := List.not_mem_of_not_mem_cons descends
    rw [List.cons_append]
    unfold visits at directories
    unfold walk lexical
    split
    next skipped =>
      rw [if_pos skipped] at directories
      exact ih later directories
    next named =>
      rw [if_neg named, if_neg (Ne.symm down)] at directories
      rw [if_neg (Ne.symm down), if_neg (Ne.symm down), List.append_assoc]
      obtain ⟨inode, entry⟩ := directories _ List.mem_cons_self
      rw [entry]
      exact ih later fun visited member => directories visited (List.mem_cons_of_mem _ member)

theorem lookup_visits (aimed : Aimed root links tree) (descends : ".." ∉ path) (avoids : Avoids links [] path)
    (reached : tree.lookup last root path = .ok place) :
    ∀ visited ∈ visits [] path, (tree.entry (root ++ visited)).isSome = true ∨ root ++ visited = place := by
  rw [← List.append_nil root] at reached
  exact walk_visits aimed descends avoids reached

theorem lookup_directories (aimed : Aimed root links tree) (descends : ".." ∉ path) (avoids : Avoids links [] path)
    (reached : tree.lookup last root (path ++ [name]) = .ok place) :
    ∀ visited ∈ visits [] path, ∃ inode, tree.entry (root ++ visited) = some (.directory inode) := by
  rw [← List.append_nil root] at reached
  exact walk_directories aimed descends avoids reached

theorem lookup_of_directories (descends : ".." ∉ path) (proper : name ≠ "" ∧ name ≠ "." ∧ name ≠ "..")
    (directories : ∀ visited ∈ visits [] path, ∃ inode, tree.entry (root ++ visited) = some (.directory inode)) :
    tree.lookup false root (path ++ [name]) = .ok (root ++ (lexical [] path ++ [name])) := by
  have walked : tree.walk (tree.resolve false 39) false (root ++ []) (path ++ [name]) =
      .ok (root ++ (lexical [] path ++ [name])) := walk_of_directories descends proper directories
  rwa [List.append_nil] at walked

/-- Where everything on a path is there, either a file stands in the way or all are directories. -/
theorem file_or_directories (aimed : Aimed root links tree) (avoids : Avoids links [] path)
    (paved : ∀ visited ∈ visits [] path, (tree.entry (root ++ visited)).isSome = true) :
    (∃ visited ∈ visits [] path, ∃ inode, tree.entry (root ++ visited) = some (.file inode)) ∨
      ∀ visited ∈ visits [] path, ∃ inode, tree.entry (root ++ visited) = some (.directory inode) := by
  by_cases blocked : ∃ visited ∈ visits [] path, ∃ inode, tree.entry (root ++ visited) = some (.file inode)
  · exact .inl blocked
  · refine .inr fun visited member => ?_
    cases entry : tree.entry (root ++ visited) with
    | none =>
      have there := paved visited member
      rw [entry] at there
      cases there
    | some found =>
      cases found with
      | directory inode => exact ⟨inode, rfl⟩
      | file inode => exact absurd ⟨visited, member, inode, entry⟩ blocked
      | link inode target => exact absurd (aimed _ _ _ entry).1 (avoids_visits avoids member)

end

end Wqm1.Library.FileTree
