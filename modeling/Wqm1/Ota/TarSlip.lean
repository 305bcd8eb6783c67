import Wqm1.Ota.TarGuard

/-! What the extraction of a vetted archive can reach. -/

set_option autoImplicit false

namespace Wqm1.Ota.Unpacker

open Wqm1.Library Wqm1.Library.FileTree Wqm1.Library.Action

variable {unpacker : Unpacker} {home : Nat} {links : List Place} {before : Disk} {path : List String}
  {holds : Disk → Prop}

theorem keeps_exceptPresent {action : Extraction Unit} (keeps : Keeps holds action) :
    Keeps holds (exceptPresent action) := by
  refine keeps.tryCatch fun raised => ?_
  split
  · exact keeps_pure ()
  · exact keeps_throw raised

theorem keeps_doIf {condition : Bool} {action : Extraction Unit} (keeps : Keeps holds action) :
    Keeps holds (doIf condition action) := by
  unfold doIf
  split
  · exact keeps
  · exact keeps_pure ()

theorem keeps_logged {action : Extraction Unit} (keeps : Keeps holds action) :
    Keeps holds (logged action) := by
  refine keeps.tryCatch fun raised => ?_
  cases raised <;> first | exact keeps_pure () | exact keeps_throw _

theorem meets_copyInstead {stronger : Disk → Prop} {copy : Extraction Unit}
    (copies : Meets stronger copy (fun _ => holds) fun _ => holds) (weaken : ∀ disk, stronger disk → holds disk)
    (raised : Raised) :
    Meets stronger (copyInstead copy raised) (fun _ => holds) fun _ => holds := by
  unfold copyInstead
  split
  · exact copies.tryCatch fun missing => keeps_throw _
  · exact meets_throw weaken

/-- `makedirs` only makes directories. -/
theorem keeps_makedirs {reversed : List String}
    (keeps : ∀ disk changed path, ".." ∉ path → holds disk → disk.mkdir unpacker.staging path unpacker.fresh = .ok changed →
      holds changed) (descends : ".." ∉ reversed) : Keeps holds (unpacker.makedirs reversed) := by
  induction reversed with
  | nil => exact keeps_pure ()
  | cons tail head ih =>
    have above := ih (List.not_mem_of_not_mem_cons descends)
    unfold makedirs
    split
    · exact above
    · refine (keeps_view _).bind fun found => (keeps_doIf (keeps_exceptPresent above)).bind fun _ => keeps_doIf ?_
      refine keeps_call fun disk changed now made => keeps disk changed _ ?_ now made
      exact fun member => descends (List.mem_reverse.mp member)

theorem keeps_makeUpper
    (keeps : ∀ disk changed path, ".." ∉ path → holds disk → disk.mkdir unpacker.staging path unpacker.fresh = .ok changed →
      holds changed) (descends : ".." ∉ path) : Keeps holds (unpacker.makeUpper path) := by
  refine (keeps_view _).bind fun found => keeps_doIf (keeps_makedirs keeps ?_)
  exact fun member => descends (List.mem_of_mem_dropLast (List.mem_reverse.mp member))

/-- Nothing was made or changed outside the staging directory so far. -/
abbrev Inside (unpacker : Unpacker) (home : Nat) (links : List Place) (before : Disk) :
    Disk → Prop :=
  Contained unpacker.staging home links before

theorem inside_mkdir {disk changed : Disk} {attributes : FileAttributes} (descends : ".." ∉ path)
    (now : unpacker.Inside home links before disk)
    (made : disk.mkdir unpacker.staging path attributes = .ok changed) :
    unpacker.Inside home links before changed :=
  now.mkdir (staysIn_of_descends descends) made

theorem inside_makeUpper (descends : ".." ∉ path) :
    Keeps (unpacker.Inside home links before) (unpacker.makeUpper path) :=
  keeps_makeUpper (fun _ _ _ descends now made => inside_mkdir descends now made) descends

theorem inside_setAttributes {last : Bool} {failed : String}
    {change : FileAttributes → FileAttributes}
    (descends : ".." ∉ path) :
    Keeps (unpacker.Inside home links before) (unpacker.setAttributes last path failed change) :=
  keeps_call fun _ _ now changed => now.setAttributes (staysIn_of_descends descends) changed

theorem inside_setAttrs (member : Member) (descends : ".." ∉ path) :
    Keeps (unpacker.Inside home links before) (unpacker.setAttrs member path) := by
  refine (inside_setAttributes descends).bind fun _ => keeps_doIf ?_
  exact (inside_setAttributes descends).bind fun _ => inside_setAttributes descends

theorem inside_makefile (content : List UInt8) (descends : ".." ∉ path) :
    Keeps (unpacker.Inside home links before) (unpacker.makefile content path) :=
  keeps_call fun _ _ now written => now.writeFile (staysIn_of_descends descends) written

theorem inside_makedir (descends : ".." ∉ path) :
    Keeps (unpacker.Inside home links before) (unpacker.makedir path) :=
  keeps_exceptPresent (keeps_call fun _ _ now made => inside_mkdir descends now made)

theorem inside_hardLink {aimed : Bool} {link : String} {copy : Extraction Unit}
    (within : Within [] (splitPath link))
    (avoids : Avoids links [] (splitPath link)) (rootless : [] ∉ links) (descends : ".." ∉ path)
    (copies : Keeps (unpacker.Inside home links before) copy) :
    Keeps (unpacker.Inside home links before) (unpacker.hardLink aimed link path copy) := by
  have unlisted : lexical [] (splitPath link) ∉ links :=
    avoids_lexical (fun above prefixed => by rwa [List.prefix_nil.mp prefixed]) avoids
  unfold hardLink
  split
  · refine (keeps_view _).bind fun found => ?_
    split
    · exact keeps_call fun _ _ now made => now.link within avoids unlisted (staysIn_of_descends descends) made
    · exact copies
  · exact keeps_throw _

section

variable {archive : List Member} {turn position : Nat} {member : Member}

theorem findLinkTarget_spec {found : Member × Nat}
    (search : findLinkTarget archive member position = some found) :
    found.1 ∈ archive ∧ normpath (splitPath found.1.name) = wanted member := by
  unfold findLinkTarget at search
  have matched := List.find?_some search
  have included := List.mem_reverse.mp (List.mem_of_find?_eq_some search)
  refine ⟨?_, of_decide_eq_true matched⟩
  have listed := List.fst_mem_of_mem_zipIdx included
  split at listed
  · exact listed
  · exact List.mem_of_mem_take listed

theorem spot_mem_linkSpots (included : member ∈ archive) (symbolic : member.isSymlink = true) :
    member.spot ∈ linkSpots archive :=
  List.mem_map_of_mem (List.mem_filter.mpr ⟨included, symbolic⟩)

/-- A member that is searched by a place that is no link's is no symbolic link. -/
theorem found_plain {found : Member × Nat} (vetted : ∀ member ∈ archive, member.Vetted)
    (search : findLinkTarget archive member position = some found) {path : List String} (within : Within [] path)
    (named : wanted member = normpath path) (unlisted : lexical [] path ∉ linkSpots archive) :
    found.1 ∈ archive ∧ found.1.isSymlink = false := by
  obtain ⟨included, same⟩ := findLinkTarget_spec search
  refine ⟨included, Bool.eq_false_iff.mpr fun symbolic => unlisted ?_⟩
  rw [named, normpath_lexical within, normpath_lexical (within_of_descends (vetted _ included).descends)] at same
  rw [← same]
  exact spot_mem_linkSpots included symbolic

/-- A member that is no symbolic link may be extracted anywhere in the staging directory. -/
theorem inside_extractMember {depth : Nat} {attrs : Bool}
    (vetted : ∀ member ∈ archive, member.Vetted)
    (straight : StraightLinks archive) (included : member ∈ archive)
    (plain : member.isSymlink = false) (descends : ".." ∉ path) :
    Keeps (unpacker.Inside home (linkSpots archive) before)
      (unpacker.extractMember archive turn depth member position path attrs) := by
  induction depth generalizing member position attrs with
  | zero => exact keeps_throw _
  | succ depth ih =>
    unfold extractMember
    refine (inside_makeUpper descends).bind fun _ => Keeps.bind ?_ fun _ => keeps_doIf (inside_setAttrs member descends)
    unfold makeMember
    cases kind : member.kind with
      | regular content => exact inside_makefile content descends
      | directory => exact inside_makedir descends
      | symlink link => simp [Member.isSymlink, kind] at plain
      | hardlink link =>
        have within := (vetted member included).hardlink link kind
        have avoids : Avoids (linkSpots archive) [] (splitPath link) := by
          have aims := straight member included
          rwa [Member.Straight, kind] at aims
        have unlisted : lexical [] (splitPath link) ∉ linkSpots archive :=
          avoids_lexical (fun above prefixed => by rw [List.prefix_nil.mp prefixed]; exact rootless vetted straight) avoids
        have copies : Keeps (unpacker.Inside home (linkSpots archive) before)
            (copyFound (findLinkTarget archive member position) fun found place =>
              unpacker.extractMember archive turn depth found place path true) := by
          cases search : findLinkTarget archive member position with
          | none => exact keeps_throw _
          | some found =>
            have named : wanted member = normpath (splitPath link) := by rw [wanted, kind]
            obtain ⟨listed, unlinked⟩ := found_plain vetted search within named unlisted
            exact ih listed unlinked
        exact Keeps.tryCatch
          (inside_hardLink within avoids (rootless vetted straight) descends copies)
          (meets_copyInstead copies fun _ now => now)

end

/-- Everything on the way is there. -/
def Paved (unpacker : Unpacker) (dirs : List String) (disk : Disk) : Prop :=
  ∀ visited ∈ visits [] dirs, (disk.entry (unpacker.staging ++ visited)).isSome = true

/-- All on the way are directories. -/
def Opened (unpacker : Unpacker) (dirs : List String) (disk : Disk) : Prop :=
  ∀ visited ∈ visits [] dirs, ∃ inode, disk.entry (unpacker.staging ++ visited) = some (.directory inode)

/-- No link can ever be made under the name: a file stands in the way, or a directory has
the name. -/
def Stuck (unpacker : Unpacker) (dirs : List String) (name : String) (disk : Disk) : Prop :=
  (∃ visited ∈ visits [] dirs, ∃ inode, disk.entry (unpacker.staging ++ visited) = some (.file inode)) ∨
    ∃ inode, disk.entry (unpacker.staging ++ (lexical [] dirs ++ [name])) = some (.directory inode)

def Free (unpacker : Unpacker) (dirs : List String) (name : String) (disk : Disk) : Prop :=
  unpacker.Opened dirs disk ∧
    ∀ inode, disk.entry (unpacker.staging ++ (lexical [] dirs ++ [name])) ≠ some (.directory inode)

section

variable {dirs : List String} {name : String} {disk changed : Disk}

theorem entry_of_mkdir {attributes : FileAttributes}
    (made : disk.mkdir unpacker.staging path attributes = .ok changed)
    {place : Place} {entry : FileEntry} (present : disk.entry place = some entry) :
    changed.entry place = some entry := by
  obtain ⟨added, _, free, rfl⟩ := create_spec made
  have apart : place ≠ added := by
    rintro rfl
    rw [free] at present
    cases present
  simpa only [FileTree.add, Function.update_of_ne apart] using present

theorem stuck_mkdir {attributes : FileAttributes} (stuck : unpacker.Stuck dirs name disk)
    (made : disk.mkdir unpacker.staging path attributes = .ok changed) :
    unpacker.Stuck dirs name changed := by
  rcases stuck with ⟨visited, member, inode, file⟩ | ⟨inode, directory⟩
  · exact .inl ⟨visited, member, inode, entry_of_mkdir made file⟩
  · exact .inr ⟨inode, entry_of_mkdir made directory⟩

theorem stuck_lookup (inside : unpacker.Inside home links before disk)
    (stuck : unpacker.Stuck dirs name disk)
    (descends : ".." ∉ dirs) (avoids : Avoids links [] dirs) (proper : name ≠ "" ∧ name ≠ "." ∧ name ≠ "..")
    {place : Place} (reached : disk.lookup false unpacker.staging (dirs ++ [name]) = .ok place) :
    ∃ inode, disk.entry place = some (.directory inode) := by
  rcases stuck with ⟨visited, member, inode, file⟩ | directory
  · obtain ⟨inode, opened⟩ := lookup_directories inside.aimed descends avoids reached visited member
    rw [file] at opened
    cases opened
  · rwa [lookup_lexical_name inside.aimed (within_of_descends descends) avoids proper reached]

/-- Where it is stuck, the making of a link fails and changes nothing. -/
theorem stuck_replaceLink (link : String) (descends : ".." ∉ dirs) (avoids : Avoids links [] dirs)
    (proper : name ≠ "" ∧ name ≠ "." ∧ name ≠ "..") :
    Meets (fun disk => unpacker.Inside home links before disk ∧ unpacker.Stuck dirs name disk)
      (unpacker.replaceLink link (dirs ++ [name])) (fun _ _ => False)
      fun _ disk => unpacker.Inside home links before disk ∧ unpacker.Stuck dirs name disk := by
  have unlinkFails (disk changed : Disk)
      (now : unpacker.Inside home links before disk ∧ unpacker.Stuck dirs name disk)
      (done : disk.unlink unpacker.staging (dirs ++ [name]) = .ok changed) : False := by
    unfold FileTree.unlink at done
    split at done
    · cases done
    next place entry found =>
      obtain ⟨reached, present⟩ := find_spec found
      obtain ⟨inode, directory⟩ := stuck_lookup now.1 now.2 descends avoids proper reached
      rw [present] at directory
      cases directory
      cases done
  have symlinkFails (disk changed : Disk)
      (now : unpacker.Inside home links before disk ∧ unpacker.Stuck dirs name disk)
      (done : disk.symlink (splitPath link) unpacker.staging (dirs ++ [name]) unpacker.fresh = .ok changed) : False := by
    unfold FileTree.symlink at done
    split at done
    · cases done
    · obtain ⟨place, reached, free, _⟩ := create_spec done
      obtain ⟨inode, directory⟩ := stuck_lookup now.1 now.2 descends avoids proper reached
      rw [free] at directory
      cases directory
  refine Meets.bind
    (keeps_view _) fun found => Meets.bind (keeps_doIf (keeps_call ?_)) fun _ => meets_call ?_ ?_
  · exact fun disk changed now done => (unlinkFails disk changed now done).elim
  · exact symlinkFails
  · exact fun disk errno now failed => now

/-- The directories on the way are there and the name is not. -/
def Cleared (unpacker : Unpacker) (dirs : List String) (name : String) (disk : Disk) : Prop :=
  unpacker.Opened dirs disk ∧ disk.entry (unpacker.staging ++ (lexical [] dirs ++ [name])) = none

theorem cleared_unlink (descends : ".." ∉ dirs) (opened : unpacker.Opened dirs disk) :
    unpacker.Cleared dirs name { disk with
      entry := Function.update disk.entry (unpacker.staging ++ (lexical [] dirs ++ [name])) none } := by
  refine ⟨fun visited member => ?_, Function.update_self ..⟩
  have apart : unpacker.staging ++ visited ≠ unpacker.staging ++ (lexical [] dirs ++ [name]) :=
    fun same => visits_ne_name descends member (List.append_cancel_left same)
  simpa only [Function.update_of_ne apart] using opened visited member

theorem opened_lookup (descends : ".." ∉ dirs) (proper : name ≠ "" ∧ name ≠ "." ∧ name ≠ "..")
    (opened : unpacker.Opened dirs disk) :
    disk.lookup false unpacker.staging (dirs ++ [name]) =
      .ok (unpacker.staging ++ (lexical [] dirs ++ [name])) :=
  lookup_of_directories descends proper opened

/-- What stands under the name of a link to be made is removed. -/
theorem free_unlink (descends : ".." ∉ dirs) (proper : name ≠ "" ∧ name ≠ "." ∧ name ≠ "..")
    (found : Bool) :
    Meets
      (fun disk => (unpacker.Inside home links before disk ∧ unpacker.Free dirs name disk) ∧
        disk.pathExists false unpacker.staging (dirs ++ [name]) = found)
      (doIf found (ask fun disk => disk.unlink unpacker.staging (dirs ++ [name])))
      (fun _ disk => unpacker.Inside home links before disk ∧ unpacker.Cleared dirs name disk) fun _ _ => False := by
  have whole : ".." ∉ dirs ++ [name] := dotdot_notMem_concat descends proper.2.2
  have removes (disk : Disk) (free : unpacker.Free dirs name disk)
      (there : disk.pathExists false unpacker.staging (dirs ++ [name]) = true) :
      disk.unlink unpacker.staging (dirs ++ [name]) = .ok { disk with
        entry := Function.update disk.entry (unpacker.staging ++ (lexical [] dirs ++ [name])) none } := by
    have reached := opened_lookup descends proper free.1
    rw [pathExists_of_lookup reached] at there
    obtain ⟨entry, present⟩ := Option.isSome_iff_exists.mp there
    refine unlink_of_lookup reached present ?_
    cases entry with
    | directory inode => exact absurd present (free.2 inode)
    | file inode => rfl
    | link inode target => rfl
  unfold doIf
  split
  next there =>
    refine meets_call ?_ ?_
    · rintro disk changed ⟨⟨inside, free⟩, known⟩ done
      refine ⟨inside.unlink (staysIn_of_descends whole) done, ?_⟩
      rw [removes disk free (known.trans there)] at done
      cases done
      exact cleared_unlink descends free.1
    · rintro disk errno ⟨⟨_, free⟩, known⟩ failed
      rw [removes disk free (known.trans there)] at failed
      cases failed
  next missing =>
    refine meets_pure ?_
    rintro disk ⟨⟨inside, free⟩, known⟩
    refine ⟨inside, free.1, ?_⟩
    rw [pathExists_of_lookup (opened_lookup descends proper free.1)] at known
    exact Option.isSome_eq_false_iff.mp
      (known.trans (Bool.eq_false_iff.mpr missing)) |> Option.isNone_iff_eq_none.mp

/-- Where nothing is stuck, the link is made, unless its target is empty. -/
theorem free_replaceLink {link : String} (descends : ".." ∉ dirs) (avoids : Avoids links [] dirs)
    (proper : name ≠ "" ∧ name ≠ "." ∧ name ≠ "..") (listed : lexical [] dirs ++ [name] ∈ links)
    (relative : Relative (splitPath link))
    (stays : StaysIn links (lexical [] dirs) (splitPath link)) :
    Meets (fun disk => unpacker.Inside home links before disk ∧ unpacker.Free dirs name disk)
      (unpacker.replaceLink link (dirs ++ [name])) (fun _ => unpacker.Inside home links before)
      fun _ disk => unpacker.Inside home links before disk ∧ splitPath link = [""] := by
  have looks : Meets (fun disk => unpacker.Inside home links before disk ∧ unpacker.Free dirs name disk)
      (unpacker.present false (dirs ++ [name]))
      (fun found disk => (unpacker.Inside home links before disk ∧ unpacker.Free dirs name disk) ∧
        disk.pathExists false unpacker.staging (dirs ++ [name]) = found)
      fun _ disk => unpacker.Inside home links before disk ∧ splitPath link = [""] :=
    meets_view fun disk now => ⟨now, rfl⟩
  have unlinks (found : Bool) : Meets
      (fun disk => (unpacker.Inside home links before disk ∧ unpacker.Free dirs name disk) ∧
        disk.pathExists false unpacker.staging (dirs ++ [name]) = found)
      (doIf found (ask fun disk => disk.unlink unpacker.staging (dirs ++ [name])))
      (fun _ disk => unpacker.Inside home links before disk ∧ unpacker.Cleared dirs name disk)
      fun _ disk => unpacker.Inside home links before disk ∧ splitPath link = [""] :=
    (free_unlink descends proper found).weaken (fun _ now => now) (fun _ _ now => now) fun _ _ impossible => impossible.elim
  refine looks.bind fun found => (unlinks found).bind fun _ => meets_call ?_ ?_
  · rintro disk changed ⟨inside, _⟩ done
    exact inside.symlink (within_of_descends descends) avoids proper listed relative stays done
  · rintro disk errno ⟨inside, opened, free⟩ failed
    refine ⟨inside, ?_⟩
    by_contra named
    rw [symlink_of_lookup (opened_lookup descends proper opened) free named] at failed
    cases failed

theorem paved_mkdir {attributes : FileAttributes} (inside : unpacker.Inside home links before disk)
    (descends : ".." ∉ dirs) (avoids : Avoids links [] dirs)
    (made : disk.mkdir unpacker.staging dirs attributes = .ok changed) :
    unpacker.Paved dirs changed := by
  intro visited member
  obtain ⟨place, reached, free, rfl⟩ := create_spec made
  by_cases last : unpacker.staging ++ visited = place
  · simp [FileTree.add, last]
  · have there :=
      (lookup_visits inside.aimed descends avoids reached visited member).resolve_right last
    simpa only [FileTree.add, Function.update_of_ne last] using there

theorem paved_mkdir_present {attributes : FileAttributes}
    (inside : unpacker.Inside home links before disk)
    (descends : ".." ∉ dirs) (avoids : Avoids links [] dirs)
    (failed : disk.mkdir unpacker.staging dirs attributes = .error .present) :
    unpacker.Paved dirs disk := by
  intro visited member
  unfold FileTree.mkdir FileTree.create at failed
  split at failed
  next errno reached =>
    cases failed
    exact absurd reached (lookup_ne_present _ _)
  next place reached =>
    split at failed
    next there =>
      rcases lookup_visits inside.aimed descends avoids reached visited member with found | last
      · exact found
      · rwa [last]
    next => cases failed

theorem paved_pathExists (inside : unpacker.Inside home links before disk) (descends : ".." ∉ dirs)
    (avoids : Avoids links [] dirs) (found : disk.pathExists true unpacker.staging dirs = true) :
    unpacker.Paved dirs disk := by
  intro visited member
  unfold FileTree.pathExists at found
  cases search : disk.find true unpacker.staging dirs with
  | error errno =>
    rw [search] at found
    cases found
  | ok result =>
    obtain ⟨reached, present⟩ := find_spec search
    rcases lookup_visits inside.aimed descends avoids reached visited member with there | last
    · exact there
    · rw [last, present]
      rfl

/-- When `makedirs` returns, or finds its directory there already, the way is paved. -/
theorem paves_makedirs {reversed : List String} (descends : ".." ∉ reversed)
    (avoids : Avoids links [] reversed.reverse) :
    Meets (unpacker.Inside home links before) (unpacker.makedirs reversed)
      (fun _ disk => unpacker.Inside home links before disk ∧ unpacker.Paved reversed.reverse disk)
      fun raised disk => unpacker.Inside home links before disk ∧
        (raised = .osError .present → unpacker.Paved reversed.reverse disk) := by
  induction reversed with
  | nil =>
    refine meets_pure fun disk inside => ⟨inside, fun visited member => ?_⟩
    cases member
  | cons tail head ih =>
    have down := List.ne_of_not_mem_cons descends
    have later := List.not_mem_of_not_mem_cons descends
    have whole : ".." ∉ (tail :: head).reverse :=
      fun member => descends (List.mem_reverse.mp member)
    have upper : ".." ∉ head.reverse := fun member => later (List.mem_reverse.mp member)
    have clear : Avoids links [] head.reverse := by
      rw [List.reverse_cons] at avoids
      exact (avoids_append.mp avoids).1
    have lengthen (skipped : tail = "" ∨ tail = ".") (disk : Disk)
        (paved : unpacker.Paved head.reverse disk) :
        unpacker.Paved (tail :: head).reverse disk := by
      intro visited member
      rw [List.reverse_cons, visits_append] at member
      simp only [visits, skipped, ↓reduceIte, List.append_nil] at member
      exact paved visited member
    unfold makedirs
    split
    next empty =>
      exact (ih later clear).weaken (fun _ now => now)
        (fun _ disk now => ⟨now.1, lengthen (.inl empty) disk now.2⟩)
        fun _ disk now => ⟨now.1, fun same => lengthen (.inl empty) disk (now.2 same)⟩
    next =>
      have looks : Meets (unpacker.Inside home links before) (unpacker.present true head.reverse)
          (fun found disk => unpacker.Inside home links before disk ∧ (found = true → unpacker.Paved head.reverse disk))
          fun raised disk => unpacker.Inside home links before disk ∧
            (raised = .osError .present → unpacker.Paved (tail :: head).reverse disk) :=
        meets_view fun disk inside => ⟨inside, paved_pathExists inside upper clear⟩
      have above : Meets (unpacker.Inside home links before) (exceptPresent (unpacker.makedirs head))
          (fun _ disk => unpacker.Inside home links before disk ∧ unpacker.Paved head.reverse disk)
          fun raised disk => unpacker.Inside home links before disk ∧
            (raised = .osError .present → unpacker.Paved (tail :: head).reverse disk) := by
        refine (ih later clear).tryCatch fun raised => ?_
        split
        next same => exact meets_pure fun disk now => ⟨now.1, now.2 same⟩
        next other => exact meets_throw fun disk now => ⟨now.1, fun same => absurd same other⟩
      have upward (found : Bool) : Meets
          (fun disk => unpacker.Inside home links before disk ∧ (found = true → unpacker.Paved head.reverse disk))
          (doIf (!found) (exceptPresent (unpacker.makedirs head)))
          (fun _ disk => unpacker.Inside home links before disk ∧ unpacker.Paved head.reverse disk)
          fun raised disk => unpacker.Inside home links before disk ∧
            (raised = .osError .present → unpacker.Paved (tail :: head).reverse disk) := by
        cases found with
        | false => exact above.weaken (fun _ now => now.1) (fun _ _ now => now) fun _ _ now => now
        | true => exact meets_pure fun disk now => ⟨now.1, now.2 rfl⟩
      refine looks.bind fun found => (upward found).bind fun _ => ?_
      unfold doIf
      split
      next =>
        refine meets_call ?_ ?_
        · intro disk changed now made
          exact ⟨inside_mkdir whole now.1 made, paved_mkdir now.1 whole avoids made⟩
        · intro disk errno now failed
          refine ⟨now.1, fun same => ?_⟩
          cases same
          exact paved_mkdir_present now.1 whole avoids failed
      next dot =>
        have skipped : tail = "." := by simpa using dot
        exact meets_pure fun disk now => ⟨now.1, lengthen (.inr skipped) disk now.2⟩

theorem paves_makeUpper (descends : ".." ∉ dirs) (avoids : Avoids links [] dirs) :
    Meets (unpacker.Inside home links before) (unpacker.makeUpper (dirs ++ [name]))
      (fun _ disk => unpacker.Inside home links before disk ∧ unpacker.Paved dirs disk)
      fun _ => unpacker.Inside home links before := by
  unfold makeUpper
  rw [List.dropLast_concat]
  have looks : Meets (unpacker.Inside home links before) (unpacker.present true dirs)
      (fun found disk => unpacker.Inside home links before disk ∧ (found = true → unpacker.Paved dirs disk))
      fun _ => unpacker.Inside home links before :=
    meets_view fun disk inside => ⟨inside, paved_pathExists inside descends avoids⟩
  refine looks.bind fun found => ?_
  cases found with
  | true => exact meets_pure fun disk now => ⟨now.1, now.2 rfl⟩
  | false =>
    have paves : Meets (unpacker.Inside home links before) (unpacker.makedirs dirs.reverse)
        (fun _ disk => unpacker.Inside home links before disk ∧ unpacker.Paved dirs.reverse.reverse disk)
        fun raised disk => unpacker.Inside home links before disk ∧
          (raised = .osError .present → unpacker.Paved dirs.reverse.reverse disk) :=
      paves_makedirs (fun member => descends (List.mem_reverse.mp member)) (by rwa [List.reverse_reverse])
    rw [List.reverse_reverse] at paves
    exact paves.weaken (fun _ now => now.1) (fun _ _ now => now) fun _ _ now => now.1

theorem stuck_or_free (inside : unpacker.Inside home links before disk)
    (avoids : Avoids links [] dirs)
    (paved : unpacker.Paved dirs disk) :
    unpacker.Stuck dirs name disk ∨ unpacker.Free dirs name disk := by
  rcases file_or_directories inside.aimed avoids paved with file | opened
  · exact .inl (.inl file)
  · by_cases directory : ∃ inode, disk.entry (unpacker.staging ++ (lexical [] dirs ++ [name])) = some (.directory inode)
    · exact .inl (.inr directory)
    · exact .inr ⟨opened, fun inode present => directory ⟨inode, present⟩⟩

end

section

variable {archive : List Member} {turn position : Nat} {member : Member} {dirs : List String} {name : String}

/-- Where it is stuck, only what comes instead of the link counts. -/
theorem stuck_link {copy : Extraction Unit} (link : String) (descends : ".." ∉ dirs)
    (avoids : Avoids links [] dirs)
    (proper : name ≠ "" ∧ name ≠ "." ∧ name ≠ "..")
    (copies : Meets (fun disk => unpacker.Inside home links before disk ∧ unpacker.Stuck dirs name disk) copy
      (fun _ => unpacker.Inside home links before) fun _ => unpacker.Inside home links before) :
    Meets (fun disk => unpacker.Inside home links before disk ∧ unpacker.Stuck dirs name disk)
      (tryCatch (unpacker.replaceLink link (dirs ++ [name])) (copyInstead copy))
      (fun _ => unpacker.Inside home links before) fun _ => unpacker.Inside home links before := by
  refine Meets.tryCatch ?_ (meets_copyInstead copies fun _ now => now.1)
  exact (stuck_replaceLink link descends avoids proper).weaken (fun _ now => now)
    (fun _ _ impossible => impossible.elim) fun _ _ now => now

/-- Where nothing is stuck, something comes instead of the link only if its target is empty. -/
theorem free_link {copy : Extraction Unit} {link : String} (descends : ".." ∉ dirs)
    (avoids : Avoids links [] dirs)
    (proper : name ≠ "" ∧ name ≠ "." ∧ name ≠ "..") (listed : lexical [] dirs ++ [name] ∈ links)
    (relative : Relative (splitPath link)) (stays : StaysIn links (lexical [] dirs) (splitPath link))
    (copies : splitPath link = [""] → Keeps (unpacker.Inside home links before) copy) :
    Meets (fun disk => unpacker.Inside home links before disk ∧ unpacker.Free dirs name disk)
      (tryCatch (unpacker.replaceLink link (dirs ++ [name])) (copyInstead copy))
      (fun _ => unpacker.Inside home links before) fun _ => unpacker.Inside home links before := by
  refine Meets.tryCatch
    (free_replaceLink descends avoids proper listed relative stays) fun raised => ?_
  by_cases empty : splitPath link = [""]
  · exact (meets_copyInstead (copies empty) (fun _ now => now) raised).weaken (fun _ now => now.1)
      (fun _ _ now => now) fun _ _ now => now
  · exact fun disk now => absurd now.2 empty

/-- Where it is stuck, no member makes a link, and what comes instead stays inside. -/
theorem stuck_extractMember {depth : Nat} {attrs : Bool}
    (vetted : ∀ member ∈ archive, member.Vetted)
    (straight : StraightLinks archive) (included : member ∈ archive) (descends : ".." ∉ dirs)
    (avoids : Avoids (linkSpots archive) [] dirs) (proper : name ≠ "" ∧ name ≠ "." ∧ name ≠ "..") :
    Meets (fun disk => unpacker.Inside home (linkSpots archive) before disk ∧ unpacker.Stuck dirs name disk)
      (unpacker.extractMember archive turn depth member position (dirs ++ [name]) attrs)
      (fun _ => unpacker.Inside home (linkSpots archive) before)
      fun _ => unpacker.Inside home (linkSpots archive) before := by
  have whole : ".." ∉ dirs ++ [name] := dotdot_notMem_concat descends proper.2.2
  induction depth generalizing member position attrs with
  | zero => exact meets_throw fun _ now => now.1
  | succ depth ih =>
    by_cases symbolic : member.isSymlink = true
    · obtain ⟨link, kind⟩ := isSymlink_iff.mp symbolic
      have upper : Keeps (fun disk => unpacker.Inside home (linkSpots archive) before disk ∧
          unpacker.Stuck dirs name disk) (unpacker.makeUpper (dirs ++ [name])) :=
        keeps_makeUpper (fun _ _ _ descends now made => ⟨inside_mkdir descends now.1 made, stuck_mkdir now.2 made⟩) whole
      have copies : Meets (fun disk => unpacker.Inside home (linkSpots archive) before disk ∧
            unpacker.Stuck dirs name disk)
          (copyFound (findLinkTarget archive member position) fun found place =>
            unpacker.extractMember archive turn depth found place (dirs ++ [name]) true)
          (fun _ => unpacker.Inside home (linkSpots archive) before)
          fun _ => unpacker.Inside home (linkSpots archive) before := by
        cases search : findLinkTarget archive member position with
        | none => exact meets_throw fun _ now => now.1
        | some found => exact ih (findLinkTarget_spec search).1
      unfold extractMember makeMember
      rw [kind]
      exact Meets.bind
        (upper.weaken (fun _ now => now) (fun _ _ now => now) fun _ _ now => now.1) fun _ =>
        Meets.bind (stuck_link link descends avoids proper copies) fun _ => keeps_doIf (inside_setAttrs member whole)
    · exact (inside_extractMember vetted straight included (Bool.eq_false_iff.mpr symbolic) whole).weaken
        (fun _ now => now.1) (fun _ _ now => now) fun _ _ now => now

/-- A symbolic link at its own place. -/
theorem inside_extractLink {depth : Nat} {attrs : Bool} {link : String}
    (vetted : ∀ member ∈ archive, member.Vetted)
    (straight : StraightLinks archive) (included : member ∈ archive) (kind : member.kind = .symlink link)
    (placed : member.Placed (linkSpots archive) link name) :
    Keeps (unpacker.Inside home (linkSpots archive) before)
      (unpacker.extractMember archive turn depth member position (dirname member.name ++ [name]) attrs) := by
  have whole : ".." ∉ dirname member.name ++ [name] :=
    dotdot_notMem_concat placed.descends placed.proper.2.2
  have listed : lexical [] (dirname member.name) ++ [name] ∈ linkSpots archive := by
    rw [← placed.spot]
    exact spot_mem_linkSpots included (isSymlink_iff.mpr ⟨link, kind⟩)
  cases depth with
  | zero => exact keeps_throw _
  | succ depth =>
    have copyStuck : Meets (fun disk => unpacker.Inside home (linkSpots archive) before disk ∧
          unpacker.Stuck (dirname member.name) name disk)
        (copyFound (findLinkTarget archive member position) fun found place =>
          unpacker.extractMember archive turn depth found place (dirname member.name ++ [name]) true)
        (fun _ => unpacker.Inside home (linkSpots archive) before)
        fun _ => unpacker.Inside home (linkSpots archive) before := by
      cases search : findLinkTarget archive member position with
      | none => exact meets_throw fun _ now => now.1
      | some found =>
        exact stuck_extractMember vetted straight
          (findLinkTarget_spec search).1 placed.descends placed.avoids placed.proper
    have copyFree (empty : splitPath link = [""]) :
        Keeps (unpacker.Inside home (linkSpots archive) before)
        (copyFound (findLinkTarget archive member position) fun found place =>
          unpacker.extractMember archive turn depth found place (dirname member.name ++ [name]) true) := by
      have unlisted : lexical [] (dirname member.name ++ splitPath link) ∉ linkSpots archive := by
        have same : lexical [] (dirname member.name ++ splitPath link) = lexical [] (dirname member.name) := by
          rw [empty, lexical_append]
          simp [lexical]
        rw [same]
        refine avoids_lexical (fun above prefixed => ?_) placed.avoids
        rw [List.prefix_nil.mp prefixed]
        exact rootless vetted straight
      have named : wanted member =
          normpath (dirname member.name ++ splitPath link) := by rw [wanted, kind]
      cases search : findLinkTarget archive member position with
      | none => exact keeps_throw _
      | some found =>
        obtain ⟨listed, plain⟩ := found_plain vetted search placed.within named unlisted
        exact inside_extractMember vetted straight listed plain whole
    unfold extractMember makeMember
    rw [kind]
    have made := (stuck_link link placed.descends placed.avoids placed.proper copyStuck).either
      (free_link placed.descends placed.avoids placed.proper listed placed.relative placed.stays copyFree)
    refine (paves_makeUpper placed.descends placed.avoids).bind fun _ =>
      Meets.bind (made.weaken (fun disk now => ?_) (fun _ _ now => now) fun _ _ now => now) fun _ =>
        keeps_doIf (inside_setAttrs member whole)
    exact (stuck_or_free now.1 placed.avoids now.2).imp
      (fun stuck => ⟨now.1, stuck⟩) fun free => ⟨now.1, free⟩

theorem inside_extract (vetted : ∀ member ∈ archive, member.Vetted)
    (straight : StraightLinks archive)
    (included : member ∈ archive) :
    Keeps (unpacker.Inside home (linkSpots archive) before)
    (unpacker.extract archive member position) := by
  refine keeps_logged ?_
  by_cases symbolic : member.isSymlink = true
  · obtain ⟨link, kind⟩ := isSymlink_iff.mp symbolic
    obtain ⟨name, placed⟩ :=
      placed_of_straight kind (vetted member included) (straight member included)
    have path : targetPath member = dirname member.name ++ [name] := by
      rw [targetPath, placed.path, List.rdropWhile_concat_neg _ _ _ (by simpa using placed.proper.1)]
    rw [path]
    exact inside_extractLink vetted straight included kind placed
  · refine inside_extractMember vetted straight included
      (Bool.eq_false_iff.mpr symbolic) fun up => ?_
    exact (vetted member included).descends ((List.rdropWhile_prefix _ _).subset up)

theorem inside_extractEach (vetted : ∀ member ∈ archive, member.Vetted)
    (straight : StraightLinks archive)
    {rest : List (Member × Nat)} (included : ∀ entry ∈ rest, entry.1 ∈ archive) :
    Keeps (unpacker.Inside home (linkSpots archive) before)
    (unpacker.extractEach archive rest) := by
  induction rest with
  | nil => exact keeps_pure ()
  | cons entry rest ih =>
    refine (inside_extract vetted straight (included entry List.mem_cons_self)).bind fun _ => ?_
    exact ih fun other member => included other (List.mem_cons_of_mem _ member)

theorem inside_fixDirectories {rest : List Member} (vetted : ∀ member ∈ rest, member.Vetted) :
    Keeps (unpacker.Inside home links before) (unpacker.fixDirectories rest) := by
  induction rest with
  | nil => exact keeps_pure ()
  | cons member rest ih =>
    have descends := (vetted member List.mem_cons_self).descends
    refine Keeps.bind
      (keeps_logged ?_) fun _ => ih fun other listed => vetted other (List.mem_cons_of_mem _ listed)
    exact (inside_setAttributes descends).bind fun _ =>
      (inside_setAttributes descends).bind fun _ => inside_setAttributes descends

theorem inside_extractall (vetted : ∀ member ∈ archive, member.Vetted)
    (straight : StraightLinks archive) :
    Keeps (unpacker.Inside home (linkSpots archive) before) (unpacker.extractall archive) := by
  refine (inside_extractEach vetted straight fun entry listed => List.fst_mem_of_mem_zipIdx listed).bind fun _ =>
    inside_fixDirectories fun member listed => vetted member ?_
  have sorted := List.mem_reverse.mp listed
  exact (List.mem_filter.mp ((List.perm_insertionSort _ _).mem_iff.mp sorted)).1

/-- The extraction of an accepted archive with straight links creates and changes nothing
outside the staging directory. -/
theorem extraction_contained {disk : Disk} (settled : Settled unpacker.staging home disk)
    (accepted : validateTarMembers archive = none) (straight : StraightLinks archive) :
    OnlyInside unpacker.staging disk ((unpacker.extractall archive).outcome disk).2 :=
  ((inside_extractall (vetted_of_validate accepted) straight).final settled.contained).onlyInside settled

end

/-- The unit right after `staging.mkdir`. -/
def fieldDisk : Disk where
  entry := fun place =>
    if place = [] then some (.directory 0)
    else if place = ["releases"] then some (.directory 1)
    else if place = ["releases", "2.1.0.staging"] then some (.directory 2)
    else none
  content := fun _ => []
  attributes := fun _ => ⟨0, 0o755, 0⟩
  next := 3

def fieldUnpacker : Unpacker where
  staging := ["releases", "2.1.0.staging"]
  fresh := ⟨0, 0o644, 0⟩
  recursionLimit := 100

theorem settled_field : Settled fieldUnpacker.staging 2 fieldDisk where
  rooted := by decide
  empty place inside proper := by
    obtain ⟨rest, rfl⟩ := inside
    have more : rest ≠ [] := by
      rintro rfl
      exact proper (List.append_nil _)
    simp [fieldDisk, fieldUnpacker, more]
  used place entry present := by
    simp only [fieldDisk] at present
    split at present
    · cases present; decide
    · split at present
      · cases present; decide
      · split at present
        · cases present; decide
        · cases present
  once place entry present home := by
    simp only [fieldDisk] at present
    split at present
    · cases present; cases home
    · split at present
      · cases present; cases home
      · split at present
        next same => exact same
        next => cases present

/-- A program, a link up and down again to it, and a second name of it. -/
def releaseArchive : List Member :=
  [⟨"src", .directory, 0, 0o755, 0⟩, ⟨"src/main.py", .regular [112], 0, 0o644, 0⟩,
    ⟨"bin/run", .symlink "../src/main.py", 0, 0o777, 0⟩, ⟨"main.py", .hardlink "src/main.py", 0, 0o644, 0⟩]

theorem extraction_contained_release :
    OnlyInside fieldUnpacker.staging fieldDisk ((fieldUnpacker.extractall releaseArchive).outcome fieldDisk).2 :=
  extraction_contained settled_field (by decide +kernel) (by decide +kernel)

/-- `x` goes through the link `d/s` and then up. -/
def slippingArchive : List Member :=
  [⟨"d/s", .symlink "..", 0, 0o777, 0⟩, ⟨"x", .symlink "d/s/..", 0, 0o777, 0⟩, ⟨"x/evil", .regular [101], 0, 0o644, 0⟩]

theorem extraction_slips :
    validateTarMembers slippingArchive = none ∧ Settled fieldUnpacker.staging 2 fieldDisk ∧
      ¬ OnlyInside fieldUnpacker.staging fieldDisk ((fieldUnpacker.extractall slippingArchive).outcome fieldDisk).2 := by
  refine ⟨by decide +kernel, settled_field, fun only => ?_⟩
  have written :
      ((fieldUnpacker.extractall slippingArchive).outcome fieldDisk).2.entry ["releases", "evil"] =
      some (.file 6) := by decide +kernel
  rw [only.entries ["releases", "evil"] (by decide)] at written
  exact absurd written (by decide)

end Wqm1.Ota.Unpacker
