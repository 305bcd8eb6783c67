import Wqm1.Library.FileTree

/-! Calls that stay below a root: no path climbs out by the text alone, and none climbs
after it has passed a link. -/

set_option autoImplicit false

namespace Wqm1.Library.FileTree

/-- Where components lead when no name is a link. -/
def lexical (here : Place) : List String → Place
  | [] => here
  | component :: rest =>
    if component = "" ∨ component = "." then lexical here rest
    else if component = ".." then lexical here.dropLast rest
    else lexical (here ++ [component]) rest

/-- By the text alone, the path never climbs above the root. -/
def Within (here : Place) : List String → Prop
  | [] => True
  | component :: rest =>
    if component = "" ∨ component = "." then Within here rest
    else if component = ".." then here ≠ [] ∧ Within here.dropLast rest
    else Within (here ++ [component]) rest

/-- The path does not climb any more once it has come to one of `links`. -/
def ClimbsFirst (links : List Place) (here : Place) : List String → Prop
  | [] => True
  | component :: rest =>
    if component = "" ∨ component = "." then ClimbsFirst links here rest
    else if component = ".." then ClimbsFirst links here.dropLast rest
    else if here ++ [component] ∈ links then ".." ∉ rest
    else ClimbsFirst links (here ++ [component]) rest

/-- The path comes to none of `links`. -/
def Avoids (links : List Place) (here : Place) : List String → Prop
  | [] => True
  | component :: rest =>
    if component = "" ∨ component = "." then Avoids links here rest
    else if component = ".." then Avoids links here.dropLast rest
    else here ++ [component] ∉ links ∧ Avoids links (here ++ [component]) rest

def decidableClimbsFirst (links : List Place) : (here : Place) → (path : List String) → Decidable (ClimbsFirst links here path)
  | _, [] => .isTrue trivial
  | here, component :: rest =>
    have := decidableClimbsFirst links here rest
    have := decidableClimbsFirst links here.dropLast rest
    have := decidableClimbsFirst links (here ++ [component]) rest
    inferInstanceAs (Decidable
      (if component = "" ∨ component = "." then ClimbsFirst links here rest
      else if component = ".." then ClimbsFirst links here.dropLast rest
      else if here ++ [component] ∈ links then ".." ∉ rest
      else ClimbsFirst links (here ++ [component]) rest))

def decidableAvoids (links : List Place) : (here : Place) → (path : List String) → Decidable (Avoids links here path)
  | _, [] => .isTrue trivial
  | here, component :: rest =>
    have := decidableAvoids links here rest
    have := decidableAvoids links here.dropLast rest
    have := decidableAvoids links (here ++ [component]) rest
    inferInstanceAs (Decidable
      (if component = "" ∨ component = "." then Avoids links here rest
      else if component = ".." then Avoids links here.dropLast rest
      else here ++ [component] ∉ links ∧ Avoids links (here ++ [component]) rest))

instance (links : List Place) (here : Place) (path : List String) : Decidable (ClimbsFirst links here path) :=
  decidableClimbsFirst links here path

instance (links : List Place) (here : Place) (path : List String) : Decidable (Avoids links here path) :=
  decidableAvoids links here path

/-- `Within` and `ClimbsFirst`, as far as no link has been passed. -/
def StaysIn (links : List Place) (here : Place) : List String → Prop
  | [] => True
  | component :: rest =>
    if component = "" ∨ component = "." then StaysIn links here rest
    else if component = ".." then here ≠ [] ∧ StaysIn links here.dropLast rest
    else if here ++ [component] ∈ links then ".." ∉ rest
    else StaysIn links (here ++ [component]) rest

section

variable {links : List Place} {here : Place} {path rest : List String}

theorem staysIn_of_descends (descends : ".." ∉ path) : StaysIn links here path := by
  induction path generalizing here with
  | nil => trivial
  | cons component rest ih =>
    have first := List.ne_of_not_mem_cons descends
    have later := List.not_mem_of_not_mem_cons descends
    unfold StaysIn
    split
    · exact ih later
    · rw [if_neg (Ne.symm first)]
      split
      · exact later
      · exact ih later

theorem staysIn_append (stays : StaysIn links here path) (descends : ".." ∉ rest) :
    StaysIn links here (path ++ rest) := by
  induction path generalizing here with
  | nil => exact staysIn_of_descends descends
  | cons component more ih =>
    unfold StaysIn at stays
    rw [List.cons_append]
    unfold StaysIn
    split
    next skipped => exact ih (by simpa only [skipped, ↓reduceIte] using stays)
    next named =>
      rw [if_neg named] at stays
      split
      next up =>
        rw [if_pos up] at stays
        exact ⟨stays.1, ih stays.2⟩
      next down =>
        rw [if_neg down] at stays
        split
        next found =>
          rw [if_pos found] at stays
          exact fun climbs => (List.mem_append.mp climbs).elim stays descends
        next missed =>
          rw [if_neg missed] at stays
          exact ih stays

theorem staysIn_of_climbsFirst (within : Within here path) (climbs : ClimbsFirst links here path) :
    StaysIn links here path := by
  induction path generalizing here with
  | nil => trivial
  | cons component rest ih =>
    unfold Within at within
    unfold ClimbsFirst at climbs
    unfold StaysIn
    split
    next skipped =>
      rw [if_pos skipped] at within climbs
      exact ih within climbs
    next named =>
      rw [if_neg named] at within climbs
      split
      next up =>
        rw [if_pos up] at within climbs
        exact ⟨within.1, ih within.2 climbs⟩
      next down =>
        rw [if_neg down] at within climbs
        split
        next found => exact (if_pos found).mp climbs
        next missed => exact ih within ((if_neg missed).mp climbs)

end

/-- The target of a link, wherever the link is. -/
def Relative (target : List String) : Prop :=
  ∀ here, origin here target = here

section

variable {Content Attributes : Type}

/-- Every link below the root is one of `links`, and its target stays below the root. -/
def Aimed (root : Place) (links : List Place) (tree : FileTree Content Attributes) : Prop :=
  ∀ below inode target, tree.entry (root ++ below) = some (.link inode target) →
    below ∈ links ∧ Relative target ∧ StaysIn links below.dropLast target

variable {tree : FileTree Content Attributes} {root : Place} {links : List Place} {below place : Place}
  {path : List String} {last : Bool} {follow : Place → List String → Except Errno Place}

theorem walk_inside (aimed : Aimed root links tree)
    (followed : ∀ below path place, StaysIn links below path → follow (root ++ below) path = .ok place → root <+: place)
    (stays : StaysIn links below path) (reached : tree.walk follow last (root ++ below) path = .ok place) :
    root <+: place := by
  induction path generalizing below with
  | nil =>
    cases reached
    exact List.prefix_append ..
  | cons component rest ih =>
    unfold StaysIn at stays
    unfold walk at reached
    split at reached
    next skipped => exact ih ((if_pos skipped).mp stays) reached
    next named =>
      rw [if_neg named] at stays
      split at reached
      next up =>
        rw [if_pos up] at stays
        rw [List.dropLast_append_of_ne_nil stays.1] at reached
        exact ih stays.2 reached
      next down =>
        rw [if_neg down] at stays
        rw [List.append_assoc] at reached
        have further : StaysIn links (below ++ [component]) rest := by
          by_cases found : below ++ [component] ∈ links
          · exact staysIn_of_descends ((if_pos found).mp stays)
          · exact (if_neg found).mp stays
        have inside : root <+: root ++ (below ++ [component]) := List.prefix_append ..
        split at reached
        next =>
          split at reached
          · cases reached
            exact inside
          · cases reached
        next => exact ih further reached
        next =>
          split at reached
          · cases reached
            exact inside
          · cases reached
        next inode target entry =>
          split at reached
          · cases reached
            exact inside
          · obtain ⟨listed, relative, aim⟩ := aimed _ _ _ entry
            rw [relative] at reached
            rw [List.dropLast_concat] at aim
            have descends : ".." ∉ rest := (if_pos listed).mp stays
            exact followed below (target ++ rest) place (staysIn_append aim descends) reached

theorem resolve_inside {count : Nat} (aimed : Aimed root links tree) (stays : StaysIn links below path)
    (reached : tree.resolve last count (root ++ below) path = .ok place) : root <+: place := by
  induction count generalizing below path place with
  | zero => exact walk_inside aimed (fun _ _ _ _ impossible => by cases impossible) stays reached
  | succ count ih => exact walk_inside aimed (fun _ _ _ stays reached => ih stays reached) stays reached

theorem lookup_inside (aimed : Aimed root links tree) (stays : StaysIn links [] path)
    (reached : tree.lookup last root path = .ok place) : root <+: place :=
  resolve_inside aimed stays (by rwa [List.append_nil])

/-- Without links on the way the text tells where a path leads. -/
theorem walk_lexical (aimed : Aimed root links tree) (within : Within below path) (avoids : Avoids links below path)
    (reached : tree.walk follow last (root ++ below) path = .ok place) : place = root ++ lexical below path := by
  induction path generalizing below with
  | nil =>
    cases reached
    rfl
  | cons component rest ih =>
    unfold Within at within
    unfold Avoids at avoids
    unfold walk at reached
    unfold lexical
    split at reached
    next skipped =>
      rw [if_pos skipped] at within avoids ⊢
      exact ih within avoids reached
    next named =>
      rw [if_neg named] at within avoids ⊢
      split at reached
      next up =>
        rw [if_pos up] at within avoids ⊢
        rw [List.dropLast_append_of_ne_nil within.1] at reached
        exact ih within.2 avoids reached
      next down =>
        rw [if_neg down] at within avoids ⊢
        rw [List.append_assoc] at reached
        split at reached
        next =>
          split at reached
          next ended =>
            cases reached
            rw [ended]
            rfl
          next => cases reached
        next => exact ih within avoids.2 reached
        next =>
          split at reached
          next ended =>
            cases reached
            rw [ended]
            rfl
          next => cases reached
        next inode target entry => exact absurd (aimed _ _ _ entry).1 avoids.1

/-- A name in a directory that is reached without links stands at its lexical place, also
when it is a link itself. -/
theorem walk_lexical_name {name : String} (aimed : Aimed root links tree) (within : Within below path)
    (avoids : Avoids links below path) (proper : name ≠ "" ∧ name ≠ "." ∧ name ≠ "..")
    (reached : tree.walk follow false (root ++ below) (path ++ [name]) = .ok place) :
    place = root ++ (lexical below path ++ [name]) := by
  induction path generalizing below with
  | nil =>
    simp only [List.nil_append, walk, proper.1, proper.2.1, proper.2.2, or_self, ↓reduceIte, true_and] at reached
    rw [List.append_assoc] at reached
    unfold lexical
    split at reached <;> cases reached <;> rfl
  | cons component rest ih =>
    rw [List.cons_append] at reached
    unfold Within at within
    unfold Avoids at avoids
    unfold walk at reached
    unfold lexical
    split at reached
    next skipped =>
      rw [if_pos skipped] at within avoids ⊢
      exact ih within avoids reached
    next named =>
      rw [if_neg named] at within avoids ⊢
      split at reached
      next up =>
        rw [if_pos up] at within avoids ⊢
        rw [List.dropLast_append_of_ne_nil within.1] at reached
        exact ih within.2 avoids reached
      next down =>
        rw [if_neg down] at within avoids ⊢
        rw [List.append_assoc] at reached
        have more : rest ++ [name] ≠ [] := by simp
        split at reached
        next =>
          rw [if_neg more] at reached
          cases reached
        next => exact ih within avoids.2 reached
        next =>
          rw [if_neg more] at reached
          cases reached
        next inode target entry => exact absurd (aimed _ _ _ entry).1 avoids.1

theorem lookup_lexical (aimed : Aimed root links tree) (within : Within [] path) (avoids : Avoids links [] path)
    (reached : tree.lookup last root path = .ok place) : place = root ++ lexical [] path := by
  rw [← List.append_nil root] at reached
  exact walk_lexical aimed within avoids reached

theorem lookup_lexical_name {name : String} (aimed : Aimed root links tree) (within : Within [] path)
    (avoids : Avoids links [] path) (proper : name ≠ "" ∧ name ≠ "." ∧ name ≠ "..")
    (reached : tree.lookup false root (path ++ [name]) = .ok place) : place = root ++ (lexical [] path ++ [name]) := by
  rw [← List.append_nil root] at reached
  exact walk_lexical_name aimed within avoids proper reached

end

/-- Since `before`, with `home` the root's own inode, only what is below the root was made
or changed. -/
structure Contained {Content Attributes : Type} (root : Place) (home : Nat) (links : List Place)
    (before now : FileTree Content Attributes) : Prop where
  outside : ∀ place, ¬ root <+: place → now.entry place = before.entry place
  rooted : now.entry root = some (.directory home)
  fresh : ∀ place entry, root <+: place → place ≠ root → now.entry place = some entry → before.next ≤ entry.inode
  grown : before.next ≤ now.next
  content : ∀ inode < before.next, now.content inode = before.content inode
  attributes : ∀ inode < before.next, inode ≠ home → now.attributes inode = before.attributes inode
  aimed : Aimed root links now

section

variable {Content Attributes : Type} {root : Place} {home : Nat} {links : List Place}
  {before now changed : FileTree Content Attributes} {path : List String} {place : Place}

theorem find_spec {last : Bool} {found : Place × FileEntry} (done : now.find last root path = .ok found) :
    now.lookup last root path = .ok found.1 ∧ now.entry found.1 = some found.2 := by
  unfold find at done
  split at done
  · cases done
  next looked =>
    split at done
    · cases done
    next present =>
      cases done
      exact ⟨looked, present⟩

theorem create_spec {put : Place → FileTree Content Attributes} (done : now.create root path put = .ok changed) :
    ∃ place, now.lookup false root path = .ok place ∧ now.entry place = none ∧ put place = changed := by
  unfold create at done
  split at done
  · cases done
  next place looked =>
    split at done
    · cases done
    next free =>
      cases done
      exact ⟨place, looked, by simpa using free, rfl⟩

namespace Contained

/-- A name below the root gets a new entry or loses its own. -/
theorem renamed (contained : Contained root home links before now) (inside : root <+: place) (below : place ≠ root)
    (entry : Option FileEntry) (fresh : ∀ made ∈ entry, before.next ≤ made.inode)
    (aimed : ∀ below inode target, place = root ++ below → entry = some (.link inode target) →
      below ∈ links ∧ Relative target ∧ StaysIn links below.dropLast target) :
    Contained root home links before { now with entry := Function.update now.entry place entry } where
  outside other outside := by
    have apart : other ≠ place := fun same => outside (same ▸ inside)
    simpa only [Function.update_of_ne apart] using contained.outside other outside
  rooted := by simpa only [Function.update_of_ne below.symm] using contained.rooted
  fresh other found prefixed proper present := by
    by_cases same : other = place
    · rw [same] at present
      exact fresh found (Option.mem_def.mpr (by simpa only [Function.update_self] using present))
    · exact contained.fresh other found prefixed proper (by simpa only [Function.update_of_ne same] using present)
  grown := contained.grown
  content := contained.content
  attributes := contained.attributes
  aimed spot inode target present := by
    by_cases same : root ++ spot = place
    · rw [same] at present
      exact aimed spot inode target same.symm (by simpa only [Function.update_self] using present)
    · exact contained.aimed spot inode target (by simpa only [Function.update_of_ne same] using present)

theorem changesContent (contained : Contained root home links before now) {inode : Nat} (new : before.next ≤ inode)
    (content : Content) :
    Contained root home links before { now with content := Function.update now.content inode content } :=
  { contained with
    content := fun old earlier => by
      have apart : old ≠ inode := by omega
      simpa only [Function.update_of_ne apart] using contained.content old earlier }

theorem changesAttributes (contained : Contained root home links before now) {inode : Nat}
    (own : before.next ≤ inode ∨ inode = home) (attributes : Attributes) :
    Contained root home links before { now with attributes := Function.update now.attributes inode attributes } :=
  { contained with
    attributes := fun old earlier foreign => by
      have apart : old ≠ inode := by omega
      simpa only [Function.update_of_ne apart] using contained.attributes old earlier foreign }

theorem allocates (contained : Contained root home links before now) :
    Contained root home links before { now with next := now.next + 1 } :=
  { contained with grown := Nat.le_succ_of_le contained.grown }

theorem add (contained : Contained root home links before now) (inside : root <+: place) (below : place ≠ root)
    {make : Nat → FileEntry} (numbered : ∀ inode, (make inode).inode = inode)
    (aimed : ∀ below inode target, place = root ++ below → make now.next = .link inode target →
      below ∈ links ∧ Relative target ∧ StaysIn links below.dropLast target) (attributes : Attributes) :
    Contained root home links before (now.add place make attributes) := by
  have entered := contained.renamed inside below (some (make now.next))
    (fun made same => by
      cases same
      rw [numbered]
      exact contained.grown)
    (fun below inode target same link => aimed below inode target same (Option.some.inj link))
  exact (entered.changesAttributes (.inl contained.grown) attributes).allocates

theorem own (contained : Contained root home links before now) {entry : FileEntry} (inside : root <+: place)
    (present : now.entry place = some entry) : before.next ≤ entry.inode ∨ entry.inode = home := by
  by_cases same : place = root
  · rw [same, contained.rooted] at present
    cases present
    exact .inr rfl
  · exact .inl (contained.fresh place entry inside same present)

theorem ne_root (contained : Contained root home links before now) (free : now.entry place = none) : place ≠ root := by
  rintro rfl
  rw [contained.rooted] at free
  cases free

theorem mkdir {attributes : Attributes} (contained : Contained root home links before now)
    (stays : StaysIn links [] path) (done : now.mkdir root path attributes = .ok changed) :
    Contained root home links before changed := by
  obtain ⟨place, looked, free, rfl⟩ := create_spec done
  exact contained.add (lookup_inside contained.aimed stays looked) (contained.ne_root free) (fun _ => rfl)
    (fun _ _ _ _ impossible => by cases impossible) attributes

theorem writeFile {content : Content} {attributes : Attributes} (contained : Contained root home links before now)
    (stays : StaysIn links [] path) (done : now.writeFile root path content attributes = .ok changed) :
    Contained root home links before changed := by
  unfold FileTree.writeFile at done
  split at done
  · cases done
  next place looked =>
    have inside := lookup_inside contained.aimed stays looked
    split at done
    next free =>
      cases done
      have added : Contained root home links before (now.add place .file attributes) :=
        contained.add inside (contained.ne_root free) (fun _ => rfl) (fun _ _ _ _ impossible => by cases impossible) attributes
      exact added.changesContent contained.grown content
    next inode present =>
      cases done
      have proper : place ≠ root := by
        rintro rfl
        rw [contained.rooted] at present
        cases present
      exact contained.changesContent (contained.fresh place _ inside proper present) content
    next => cases done
    next => cases done

theorem unlink (contained : Contained root home links before now) (stays : StaysIn links [] path)
    (done : now.unlink root path = .ok changed) : Contained root home links before changed := by
  unfold FileTree.unlink at done
  split at done
  · cases done
  next place entry found =>
    split at done
    · cases done
    next removable =>
      cases done
      obtain ⟨looked, present⟩ := find_spec found
      have proper : place ≠ root := by
        rintro rfl
        rw [contained.rooted] at present
        cases present
        exact removable rfl
      exact contained.renamed (lookup_inside contained.aimed stays looked) proper none (fun _ none => by cases none)
        (fun _ _ _ _ none => by cases none)

theorem setAttributes {last : Bool} {change : Attributes → Attributes} (contained : Contained root home links before now)
    (stays : StaysIn links [] path) (done : now.setAttributes last root path change = .ok changed) :
    Contained root home links before changed := by
  unfold FileTree.setAttributes at done
  split at done
  · cases done
  next place entry found =>
    cases done
    obtain ⟨looked, present⟩ := find_spec found
    exact contained.changesAttributes (contained.own (lookup_inside contained.aimed stays looked) present) _

/-- A symbolic link in a directory that is reached without links. -/
theorem symlink {target : List String} {name : String} {attributes : Attributes}
    (contained : Contained root home links before now) (within : Within [] path) (avoids : Avoids links [] path)
    (proper : name ≠ "" ∧ name ≠ "." ∧ name ≠ "..") (listed : lexical [] path ++ [name] ∈ links)
    (relative : Relative target) (stays : StaysIn links (lexical [] path) target)
    (done : now.symlink target root (path ++ [name]) attributes = .ok changed) :
    Contained root home links before changed := by
  unfold FileTree.symlink at done
  split at done
  · cases done
  next =>
    obtain ⟨place, looked, free, rfl⟩ := create_spec done
    have lexically := lookup_lexical_name contained.aimed within avoids proper looked
    refine contained.add (lexically ▸ List.prefix_append ..) (contained.ne_root free) (fun _ => rfl) ?_ attributes
    intro below inode aimed same made
    cases made
    have spot : below = lexical [] path ++ [name] := List.append_cancel_left (same.symm.trans lexically)
    rw [spot, List.dropLast_concat]
    exact ⟨listed, relative, stays⟩

/-- A hard link to what is not a symbolic link itself. -/
theorem link {source : List String} (contained : Contained root home links before now)
    (within : Within [] source) (avoids : Avoids links [] source) (unlisted : lexical [] source ∉ links)
    (stays : StaysIn links [] path) (done : now.link source root path = .ok changed) :
    Contained root home links before changed := by
  unfold FileTree.link at done
  split at done
  · cases done
  next origin entry found =>
    split at done
    · cases done
    next linkable =>
      obtain ⟨place, looked, free, rfl⟩ := create_spec done
      obtain ⟨reached, present⟩ := find_spec found
      have lexically : origin = root ++ lexical [] source := lookup_lexical contained.aimed within avoids reached
      have proper : origin ≠ root := by
        rintro rfl
        rw [contained.rooted] at present
        cases present
        exact linkable rfl
      have own : before.next ≤ entry.inode :=
        contained.fresh origin entry (lexically ▸ List.prefix_append ..) proper present
      refine contained.renamed (lookup_inside contained.aimed stays looked) (contained.ne_root free) (some entry)
        (fun made same => by cases same; exact own) ?_
      intro below inode target _ made
      cases made
      have sourceLink := contained.aimed (lexical [] source) inode target (lexically ▸ present)
      exact absurd sourceLink.1 unlisted

end Contained

end

/-- An empty directory, whose inode `home` has no second name. -/
structure Settled {Content Attributes : Type} (root : Place) (home : Nat) (tree : FileTree Content Attributes) : Prop where
  rooted : tree.entry root = some (.directory home)
  empty : ∀ place, root <+: place → place ≠ root → tree.entry place = none
  used : ∀ place entry, tree.entry place = some entry → entry.inode < tree.next
  once : ∀ place entry, tree.entry place = some entry → entry.inode = home → place = root

/-- Every name outside the root stands for the same object as before, with the same content
and attributes, and no name below the root stands for one of these objects. -/
structure OnlyInside {Content Attributes : Type} (root : Place) (before now : FileTree Content Attributes) : Prop where
  entries : ∀ place, ¬ root <+: place → now.entry place = before.entry place
  content : ∀ place entry, ¬ root <+: place → before.entry place = some entry →
    now.content entry.inode = before.content entry.inode
  attributes : ∀ place entry, ¬ root <+: place → before.entry place = some entry →
    now.attributes entry.inode = before.attributes entry.inode
  apart : ∀ place entry other inner, ¬ root <+: place → before.entry place = some entry →
    root <+: other → now.entry other = some inner → inner.inode ≠ entry.inode

section

variable {Content Attributes : Type} {root : Place} {home : Nat} {links : List Place}
  {before now : FileTree Content Attributes}

theorem Settled.contained (settled : Settled root home before) : Contained root home links before before where
  outside _ _ := rfl
  rooted := settled.rooted
  fresh place entry inside proper present := by
    rw [settled.empty place inside proper] at present
    cases present
  grown := Nat.le_refl _
  content _ _ := rfl
  attributes _ _ _ := rfl
  aimed below inode target present := by
    by_cases same : root ++ below = root
    · rw [same, settled.rooted] at present
      cases present
    · rw [settled.empty _ (List.prefix_append ..) same] at present
      cases present

theorem Contained.onlyInside (contained : Contained root home links before now) (settled : Settled root home before) :
    OnlyInside root before now := by
  have foreign {place : Place} {entry : FileEntry} (outside : ¬ root <+: place)
      (present : before.entry place = some entry) : entry.inode ≠ home := by
    intro same
    rw [settled.once place entry present same] at outside
    exact outside (List.prefix_refl root)
  constructor
  · exact contained.outside
  · intro place entry _ present
    exact contained.content _ (settled.used place entry present)
  · intro place entry outside present
    exact contained.attributes _ (settled.used place entry present) (foreign outside present)
  · intro place entry other inner outside present inside found same
    rcases contained.own inside found with new | own
    · exact absurd (settled.used place entry present) (by omega)
    · exact foreign outside present (same.symm.trans own)

end

end Wqm1.Library.FileTree
