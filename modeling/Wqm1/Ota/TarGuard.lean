import Wqm1.Library.LinkFree
import Wqm1.Ota.TarExtract

/-! What the tar-slip guard has checked of an archive, and when that tells where its links lead. -/

set_option autoImplicit false

namespace Wqm1.Ota

open Wqm1.Library Wqm1.Library.FileTree

/-- Where a member stands by its name. -/
def Member.spot (member : Member) : Place :=
  lexical [] (splitPath member.name)

def linkSpots (archive : List Member) : List Place :=
  (archive.filter Member.isSymlink).map Member.spot

/-- The link of a member leads where its text tells: a symbolic link has a name of its own
in a directory that no link stands above, its target does not climb after a link, and no
link is on the way to the source of a hard link. -/
def Member.Straight (links : List Place) (member : Member) : Prop :=
  match member.kind with
  | .symlink link =>
    (splitPath member.name).getLast? ∉ [some "", some "."] ∧ Avoids links [] (dirname member.name) ∧
      ClimbsFirst links (lexical [] (dirname member.name)) (splitPath link)
  | .hardlink link => Avoids links [] (splitPath link)
  | _ => True

instance (links : List Place) (member : Member) : Decidable (member.Straight links) := by
  unfold Member.Straight
  split <;> infer_instance

def StraightLinks (archive : List Member) : Prop :=
  ∀ member ∈ archive, member.Straight (linkSpots archive)

instance (archive : List Member) : Decidable (StraightLinks archive) :=
  inferInstanceAs (Decidable (∀ member ∈ archive, member.Straight (linkSpots archive)))

/-- What the guard has checked. -/
structure Member.Vetted (member : Member) : Prop where
  descends : ".." ∉ splitPath member.name
  symlink : ∀ link, member.kind = .symlink link →
    Relative (splitPath link) ∧ Within [] (dirname member.name ++ splitPath link)
  hardlink : ∀ link, member.kind = .hardlink link → Within [] (splitPath link)

theorem splitPath_ne_nil (text : String) : splitPath text ≠ [] := by
  intro none
  exact List.splitOn_ne_nil _ _ (List.map_eq_nil_iff.mp none)

theorem relative_of_slashFirst {text : String} (plain : slashFirst text = false) : Relative (splitPath text) := by
  intro here
  unfold slashFirst at plain
  unfold splitPath
  cases letters : text.toList with
  | nil => rfl
  | cons first rest =>
    rw [letters] at plain
    have named : first ≠ '/' := by
      rintro rfl
      simp at plain
    rw [List.splitOn_cons_eq_if_modifyHead, if_neg (by simpa using named)]
    cases split : rest.splitOn '/' with
    | nil => exact absurd split (List.splitOn_ne_nil _ _)
    | cons letters others =>
      have first : String.ofList (first :: letters) ≠ "" := by
        intro empty
        have same := congrArg String.toList empty
        simp at same
      simp only [List.modifyHead_cons, List.map_cons]
      unfold origin
      split
      next same => exact absurd (List.cons.inj same).1 first
      next => rfl

section

variable {done path : List String} {component : String}

theorem normStep_skips (skipped : component = "" ∨ component = ".") : normStep done component = done :=
  if_pos skipped

theorem normStep_descends (proper : ¬(component = "" ∨ component = ".")) (down : component ≠ "..") :
    normStep done component = done ++ [component] :=
  (if_neg proper).trans (if_pos (.inl down))

theorem normStep_climbs (named : ".." ∉ done) (some : done ≠ []) : normStep done ".." = done.dropLast := by
  refine (if_neg (by decide)).trans (if_neg ?_)
  rintro (other | empty | climbed)
  · exact other rfl
  · exact some empty
  · exact named (List.mem_of_getLast? climbed)

/-- Once a normal form begins with `..`, it goes on to do so. -/
theorem normStep_climbed (climbed : done.head? = some "..") : (normStep done component).head? = some ".." := by
  unfold normStep
  split
  · exact climbed
  · split
    · cases done with
      | nil => cases climbed
      | cons first more => exact climbed
    next popped =>
      push Not at popped
      cases done with
      | nil => cases climbed
      | cons first more =>
        cases more with
        | nil => exact absurd climbed popped.2.2
        | cons second others => exact climbed

theorem foldl_normStep_climbed (climbed : done.head? = some "..") : (path.foldl normStep done).head? = some ".." := by
  induction path generalizing done with
  | nil => exact climbed
  | cons component rest ih => exact ih (normStep_climbed climbed)

theorem dotdot_notMem_concat (named : ".." ∉ done) (down : component ≠ "..") : ".." ∉ done ++ [component] := by
  intro member
  rcases List.mem_append.mp member with earlier | last
  · exact named earlier
  · exact down (List.mem_singleton.mp last).symm

/-- As long as a path stays within, its normal form is where it leads. -/
theorem foldl_normStep_lexical (named : ".." ∉ done) (within : Within done path) :
    path.foldl normStep done = lexical done path := by
  induction path generalizing done with
  | nil => rfl
  | cons component rest ih =>
    rw [List.foldl_cons]
    unfold Within at within
    unfold lexical
    by_cases skipped : component = "" ∨ component = "."
    · rw [if_pos skipped] at within ⊢
      rw [normStep_skips skipped]
      exact ih named within
    · rw [if_neg skipped] at within ⊢
      by_cases up : component = ".."
      · rw [if_pos up] at within ⊢
        rw [up, normStep_climbs named within.1]
        exact ih (fun member => named (List.mem_of_mem_dropLast member)) within.2
      · rw [if_neg up] at within ⊢
        rw [normStep_descends skipped up]
        exact ih (dotdot_notMem_concat named up) within

theorem within_of_foldl_normStep (named : ".." ∉ done) (kept : (path.foldl normStep done).head? ≠ some "..") :
    Within done path := by
  induction path generalizing done with
  | nil => trivial
  | cons component rest ih =>
    rw [List.foldl_cons] at kept
    unfold Within
    by_cases skipped : component = "" ∨ component = "."
    · rw [normStep_skips skipped] at kept
      rw [if_pos skipped]
      exact ih named kept
    · rw [if_neg skipped]
      by_cases up : component = ".."
      · rw [if_pos up]
        by_cases empty : done = []
        · rw [empty, up] at kept
          exact absurd (foldl_normStep_climbed rfl) kept
        · rw [up, normStep_climbs named empty] at kept
          exact ⟨empty, ih (fun member => named (List.mem_of_mem_dropLast member)) kept⟩
      · rw [if_neg up]
        rw [normStep_descends skipped up] at kept
        exact ih (dotdot_notMem_concat named up) kept

theorem normpath_lexical (within : Within [] path) : normpath path = lexical [] path :=
  foldl_normStep_lexical (List.not_mem_nil) within

theorem within_of_normpath (kept : escapes (normpath path) = false) : Within [] path := by
  apply within_of_foldl_normStep List.not_mem_nil
  intro climbed
  change (normpath path).head? = some ".." at climbed
  simp [escapes, climbed] at kept

end

theorem linkOffence_none {member : Member} {base : List String} {link : String}
    (accepted : member.linkOffence base link = none) :
    Relative (splitPath link) ∧ Within [] (base ++ splitPath link) := by
  unfold Member.linkOffence at accepted
  split at accepted
  · cases accepted
  next relative =>
    split at accepted
    · cases accepted
    next kept =>
      exact ⟨relative_of_slashFirst (Bool.eq_false_iff.mpr relative), within_of_normpath (Bool.eq_false_iff.mpr kept)⟩

theorem vetted_of_offence {member : Member} (accepted : member.offence = none) : member.Vetted := by
  unfold Member.offence at accepted
  split at accepted
  · cases accepted
  · split at accepted
    · cases accepted
    next descends =>
      refine ⟨descends, fun link kind => ?_, fun link kind => ?_⟩
      · rw [kind] at accepted
        exact linkOffence_none accepted
      · rw [kind] at accepted
        exact (linkOffence_none accepted).2

theorem vetted_of_validate {archive : List Member} (accepted : validateTarMembers archive = none) :
    ∀ member ∈ archive, member.Vetted :=
  fun member included => vetted_of_offence (List.findSome?_eq_none_iff.mp accepted member included)

/-- A symbolic link stands under its own name, and its target stays within. -/
structure Member.Placed (links : List Place) (member : Member) (link name : String) : Prop where
  path : splitPath member.name = dirname member.name ++ [name]
  proper : name ≠ "" ∧ name ≠ "." ∧ name ≠ ".."
  descends : ".." ∉ dirname member.name
  avoids : Avoids links [] (dirname member.name)
  spot : member.spot = lexical [] (dirname member.name) ++ [name]
  relative : Relative (splitPath link)
  within : Within [] (dirname member.name ++ splitPath link)
  stays : StaysIn links (lexical [] (dirname member.name)) (splitPath link)

theorem placed_of_straight {links : List Place} {member : Member} {link : String} (kind : member.kind = .symlink link)
    (vetted : member.Vetted) (straight : member.Straight links) : ∃ name, member.Placed links link name := by
  rw [Member.Straight, kind] at straight
  obtain ⟨named, avoids, climbs⟩ := straight
  obtain ⟨relative, within⟩ := vetted.symlink link kind
  obtain ⟨name, path⟩ : ∃ name, splitPath member.name = dirname member.name ++ [name] :=
    ⟨_, (List.dropLast_append_getLast (splitPath_ne_nil member.name)).symm⟩
  have descends := vetted.descends
  rw [path] at descends named
  rw [List.getLast?_concat] at named
  have proper : name ≠ "" ∧ name ≠ "." ∧ name ≠ ".." :=
    ⟨fun empty => named (by simp [empty]), fun dot => named (by simp [dot]), fun up => descends (by simp [up])⟩
  refine ⟨name, path, proper, fun up => descends (List.mem_append_left _ up), avoids, ?_, relative, within, ?_⟩
  · rw [Member.spot, path, lexical_append, lexical_name proper]
  · exact staysIn_of_climbsFirst (within_append.mp within).2 climbs

theorem isSymlink_iff {member : Member} : member.isSymlink = true ↔ ∃ link, member.kind = .symlink link := by
  cases kind : member.kind <;> simp [Member.isSymlink, kind]

theorem rootless {archive : List Member} (vetted : ∀ member ∈ archive, member.Vetted) (straight : StraightLinks archive) :
    [] ∉ linkSpots archive := by
  intro root
  obtain ⟨member, listed, spot⟩ := List.mem_map.mp root
  obtain ⟨included, symbolic⟩ := List.mem_filter.mp listed
  obtain ⟨link, kind⟩ := isSymlink_iff.mp symbolic
  obtain ⟨name, placed⟩ := placed_of_straight kind (vetted member included) (straight member included)
  rw [placed.spot] at spot
  simp at spot

end Wqm1.Ota
