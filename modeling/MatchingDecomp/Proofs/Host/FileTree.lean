import MatchingDecomp.Host.FileTree
import MatchingDecomp.Proofs.Host.Path

/-!
# Where paths lead

A walk goes name by name, so a path that ends in an ordinary name leads to an entry of the directory
that the rest of the path leads to (`walk_join`).

A file that is written is found again under the same path (`look_of_write`).  What has to be seen is
that writing does not spoil the walk: it changes the tree at one place only, no walk goes through
that place because it is no directory, and so every walk ends where it ended before (`walk_set`).
A device is the exception: it takes the data and stays what it is.
-/

namespace MatchingDecomp

/-- What succeeds in two parts succeeds in either. -/
theorem except_bind_eq_ok_iff {ε α β : Type} {first : Except ε α} {next : α → Except ε β}
    {answer : β} :
    (first >>= next) = .ok answer ↔ ∃ value, first = .ok value ∧ next value = .ok answer := by
  cases first with
  | error e =>
      refine iff_of_false (by rintro ⟨⟩) ?_
      rintro ⟨value, ⟨⟩, -⟩
  | ok value =>
      constructor
      · intro hnext
        exact ⟨value, rfl, hnext⟩
      · rintro ⟨_, ⟨⟩, hnext⟩
        exact hnext

namespace FileTree

/-! ## Places -/

theorem node?_of_ne_nil (t : FileTree) {place : Place} (hplace : place ≠ []) :
    t.node? place = t.entries.lookup place := by
  cases place with
  | nil => exact absurd rfl hplace
  | cons name rest => rfl

theorem lookup_filter_ne {entries : List (Place × Node)} {place other : Place}
    (hother : other ≠ place) :
    (entries.filter fun e => e.1 ≠ place).lookup other = entries.lookup other := by
  induction entries with
  | nil => rfl
  | cons entry entries ih =>
      obtain ⟨here, node⟩ := entry
      by_cases hhere : here = place
      · subst hhere
        have hmissed : (other == here) = false := beq_eq_false_iff_ne.mpr hother
        rw [List.filter_cons_of_neg (by simp), ih, List.lookup_cons, hmissed]
      · rw [List.filter_cons_of_pos (by simpa using hhere), List.lookup_cons, List.lookup_cons, ih]

theorem node?_set_self (t : FileTree) {place : Place} (hplace : place ≠ []) (node : Node) :
    (t.set place node).node? place = some node := by
  rw [node?_of_ne_nil _ hplace, set, List.lookup_cons, beq_self_eq_true]

theorem node?_set_of_ne (t : FileTree) {place other : Place} (hother : other ≠ place)
    (node : Node) : (t.set place node).node? other = t.node? other := by
  by_cases hroot : other = []
  · subst hroot
    rfl
  · have hmissed : (other == place) = false := beq_eq_false_iff_ne.mpr hother
    rw [node?_of_ne_nil _ hroot, node?_of_ne_nil _ hroot, set, List.lookup_cons, hmissed]
    exact lookup_filter_ne hother

/-! ## Walks -/

theorem walk_append (t : FileTree) (place : Place) (before after : List String) :
    t.walk place (before ++ after) = t.walk place before >>= fun next => t.walk next after := by
  induction before generalizing place with
  | nil => rfl
  | cons name before ih =>
      rw [List.cons_append, walk, walk]
      cases t.step place name with
      | ok next => exact ih next
      | error e => rfl

theorem walk_singleton (t : FileTree) (place : Place) (name : String) :
    t.walk place [name] = t.step place name := by
  rw [walk]
  cases t.step place name <;> rfl

/-- A walk that arrives arrives in two parts. -/
theorem walk_concat_eq_ok_iff {t : FileTree} {start place : Place} {before : List String}
    {name : String} :
    t.walk start (before ++ [name]) = .ok place ↔
      ∃ directory, t.walk start before = .ok directory ∧ t.step directory name = .ok place := by
  rw [walk_append, except_bind_eq_ok_iff]
  simp only [walk_singleton]

/-- Where a name leads from a directory. -/
inductive Leads (t : FileTree) (directory : Place) (name : String) : Place → Prop where
  | still (hstill : Path.isStill name = true) : Leads t directory name directory
  | up (hparent : name = "..") : Leads t directory name directory.dropLast
  | down (hstill : Path.isStill name = false) (hparent : name ≠ "..")
      (hlength : name.utf8ByteSize ≤ nameLimit)
      (hentry : (t.node? (directory ++ [name])).isSome = true) :
      Leads t directory name (directory ++ [name])

/-- Only a directory can be left. -/
theorem step_eq_ok_iff {t : FileTree} {directory place : Place} {name : String} :
    t.step directory name = .ok place ↔
      t.node? directory = some .directory ∧ t.Leads directory name place := by
  constructor
  · intro hstep
    unfold step at hstep
    split at hstep
    · rename_i hdirectory
      refine ⟨hdirectory, ?_⟩
      split at hstep
      · rename_i hstill
        cases hstep
        exact .still hstill
      · rename_i hmoves
        rw [Bool.not_eq_true] at hmoves
        split at hstep
        · rename_i hparent
          cases hstep
          exact .up (eq_of_beq hparent)
        · rename_i hdown
          split at hstep
          · cases hstep
          · rename_i hlength
            split at hstep
            · rename_i hentry
              cases hstep
              exact .down hmoves (by simpa using hdown) (Nat.le_of_not_lt hlength) hentry
            · cases hstep
    · cases hstep
    · cases hstep
  · rintro ⟨hdirectory, hleads⟩
    unfold step
    rw [hdirectory]
    cases hleads with
    | still hstill => exact if_pos hstill
    | up hparent =>
        subst hparent
        rfl
    | down hstill hparent hlength hentry =>
        dsimp only
        rw [hstill, if_neg Bool.false_ne_true, if_neg (by simpa using hparent),
          if_neg (Nat.not_lt_of_le hlength), if_pos hentry]

/-- A name in a directory leads to an entry of the place that the directory itself leads to. -/
theorem walk_join {t : FileTree} {directory name : String} (hname : Path.IsName name)
    {place : Place} (hwalk : t.walk [] (Path.segments (Path.join directory name)) = .ok place) :
    ∃ above, t.walk [] (Path.segments directory) = .ok above ∧
      t.node? above = some .directory ∧ place = above ++ [name] := by
  obtain ⟨base, hjoin, hdirectory⟩ := Path.segments_join hname directory
  rw [hjoin, walk_concat_eq_ok_iff] at hwalk
  obtain ⟨above, habove, hstep⟩ := hwalk
  obtain ⟨hnode, hleads⟩ := step_eq_ok_iff.mp hstep
  refine ⟨above, ?_, hnode, ?_⟩
  · rcases hdirectory with hdirectory | hdirectory
    · rw [hdirectory]
      exact habove
    · -- the empty segment at the end stays in the directory
      rw [hdirectory, walk_concat_eq_ok_iff]
      exact ⟨above, habove, step_eq_ok_iff.mpr ⟨hnode, .still rfl⟩⟩
  · cases hleads with
    | still hstill =>
        rw [hname.not_still] at hstill
        cases hstill
    | up hparent => exact absurd hparent hname.ne_parent
    | down => rfl

theorem locate_eq_ok {t : FileTree} {path : String} {place : Place}
    (hlocate : t.locate path = .ok place) : t.walk [] (Path.segments path) = .ok place := by
  unfold locate names at hlocate
  split at hlocate
  · cases hlocate
  · split at hlocate
    · cases hlocate
    · split at hlocate
      · cases hlocate
      · exact hlocate

/-! ## Writing -/

section

variable {t : FileTree} {place : Place} (hplace : t.node? place ≠ some .directory)

include hplace

theorem ne_nil_of_node? : place ≠ [] := by
  rintro rfl
  exact hplace rfl

/-- A change at a place that is no directory does not get in the way. -/
theorem step_set (node : Node) {directory next : Place} {name : String}
    (hstep : t.step directory name = .ok next) :
    (t.set place node).step directory name = .ok next := by
  obtain ⟨hdirectory, hleads⟩ := step_eq_ok_iff.mp hstep
  have hother : directory ≠ place := by
    rintro rfl
    exact hplace hdirectory
  refine step_eq_ok_iff.mpr ⟨?_, ?_⟩
  · rw [node?_set_of_ne _ hother]
    exact hdirectory
  · cases hleads with
    | still hstill => exact .still hstill
    | up hparent => exact .up hparent
    | down hstill hparent hlength hentry =>
        refine .down hstill hparent hlength ?_
        -- an entry that was there is still there, whatever it is now
        by_cases hhere : directory ++ [name] = place
        · rw [hhere, node?_set_self _ (ne_nil_of_node? hplace)]
          rfl
        · rw [node?_set_of_ne _ hhere]
          exact hentry

theorem walk_set (node : Node) {start goal : Place} {names : List String}
    (hwalk : t.walk start names = .ok goal) : (t.set place node).walk start names = .ok goal := by
  induction names generalizing start with
  | nil => exact hwalk
  | cons name names ih =>
      rw [walk] at hwalk ⊢
      cases hstep : t.step start name with
      | error e =>
          rw [hstep] at hwalk
          cases hwalk
      | ok next =>
          rw [hstep] at hwalk
          rw [step_set hplace node hstep]
          exact ih hwalk

end

/-- A path under which a file can be opened: its last name is an ordinary one in a directory that is
there, and the entry of that name is no directory. -/
inductive Opens (t : FileTree) (path : String) : Place → Prop where
  | intro {before : List String} {last : String} {directory : Place}
      (hnames : names path = .ok (before ++ [last])) (hwalk : t.walk [] before = .ok directory)
      (hdirectory : t.node? directory = some .directory) (hstill : Path.isStill last = false)
      (hparent : last ≠ "..") (hlength : last.utf8ByteSize ≤ nameLimit)
      (hentry : t.node? (directory ++ [last]) ≠ some .directory) :
      Opens t path (directory ++ [last])

namespace Opens

variable {t : FileTree} {path : String} {place : Place}

theorem node?_ne (hopens : t.Opens path place) : t.node? place ≠ some .directory := by
  obtain ⟨-, -, -, -, -, -, hentry⟩ := hopens
  exact hentry

/-- What stands at the place is what the path leads to. -/
theorem look_eq (hopens : t.Opens path place) {node : Node} (hnode : t.node? place = some node) :
    t.look path = .ok node := by
  obtain @⟨before, last, directory, hnames, hwalk, hdirectory, hstill, hparent, hlength, hentry⟩ :=
    hopens
  have hstep : t.step directory last = .ok (directory ++ [last]) := by
    refine step_eq_ok_iff.mpr ⟨hdirectory, .down hstill hparent hlength ?_⟩
    rw [hnode]
    rfl
  have hlocate : t.locate path = .ok (directory ++ [last]) := by
    rw [locate, hnames]
    exact walk_concat_eq_ok_iff.mpr ⟨directory, hwalk, hstep⟩
  simp only [look, hlocate, bind, Except.bind, hnode]

/-- The path stays open when something else than a directory is put there. -/
theorem set (hopens : t.Opens path place) {node : Node} (hnode : node ≠ .directory) :
    (t.set place node).Opens path place := by
  have hplace := hopens.node?_ne
  obtain @⟨before, last, directory, hnames, hwalk, hdirectory, hstill, hparent, hlength, hentry⟩ :=
    hopens
  refine .intro hnames (walk_set hplace node hwalk) ?_ hstill hparent hlength ?_
  · have hother : directory ≠ directory ++ [last] := by
      intro hsame
      have hlengths := congrArg List.length hsame
      simp at hlengths
    rw [node?_set_of_ne _ hother]
    exact hdirectory
  · rw [node?_set_self _ (ne_nil_of_node? hplace)]
    intro hsame
    exact hnode (Option.some.inj hsame)

end Opens

theorem locateLast_eq_ok {t : FileTree} {path last : String} {directory : Place} {slashed : Bool}
    (hlocate : t.locateLast path = .ok (some (directory, last, slashed))) :
    ∃ segments before, names path = .ok segments ∧
      segments.reverse.dropWhile (· == "") = last :: before ∧
      t.walk [] before.reverse = .ok directory ∧ t.node? directory = some .directory ∧
      slashed = (segments.getLast? == some "") := by
  obtain ⟨segments, hnames, hlocate⟩ := except_bind_eq_ok_iff.mp hlocate
  split at hlocate
  · cases hlocate
  · rename_i name before hlast
    obtain ⟨above, hwalk, hlocate⟩ := except_bind_eq_ok_iff.mp hlocate
    split at hlocate
    · rename_i hdirectory
      simp only [Except.ok.injEq, Option.some.injEq, Prod.mk.injEq] at hlocate
      obtain ⟨rfl, rfl, rfl⟩ := hlocate
      exact ⟨segments, before, hnames, hlast, hwalk, hdirectory, rfl⟩
    · cases hlocate
    · cases hlocate

/-- Without a slash at its end, a path ends in its last name. -/
theorem opens_of_locateLast {t : FileTree} {path last : String} {directory : Place}
    (hlocate : t.locateLast path = .ok (some (directory, last, false))) (hstill : last ≠ ".")
    (hparent : last ≠ "..") (hlength : last.utf8ByteSize ≤ nameLimit)
    (hentry : t.node? (directory ++ [last]) ≠ some .directory) :
    t.Opens path (directory ++ [last]) := by
  obtain ⟨segments, before, hnames, hdropped, hwalk, hdirectory, hslashed⟩ :=
    locateLast_eq_ok hlocate
  have hlast : last ≠ "" := by
    have hhead := List.head?_dropWhile_not (· == "") segments.reverse
    rw [hdropped] at hhead
    simpa using hhead
  have hsegments : segments = before.reverse ++ [last] := by
    rw [← List.head?_reverse] at hslashed
    cases hreverse : segments.reverse with
    | nil =>
        rw [hreverse] at hdropped
        cases hdropped
    | cons name names =>
        -- nothing is dropped, because the last segment is not empty
        rw [hreverse] at hdropped hslashed
        have hname : (name == "") = false := by
          simpa using hslashed
        rw [List.dropWhile_cons, hname, if_neg Bool.false_ne_true] at hdropped
        rw [← List.reverse_reverse segments, hreverse, hdropped, List.reverse_cons]
  rw [hsegments] at hnames
  refine .intro hnames hwalk hdirectory ?_ hparent hlength hentry
  rw [Path.isStill, Bool.or_eq_false_iff, beq_eq_false_iff_ne, beq_eq_false_iff_ne]
  exact ⟨hlast, hstill⟩

/-- What a file becomes when it is opened for writing: a device stays, anything else is empty. -/
def opened : Option Node → Node
  | some (.device full) => .device full
  | _ => .file []

theorem opened_eq_file {node : Option Node} (hnode : ∀ full, node ≠ some (.device full)) :
    opened node = .file [] := by
  unfold opened
  split
  · rename_i full
    exact absurd rfl (hnode full)
  · rfl

theorem create_eq_ok {t made : FileTree} {path : String} {place : Place}
    (hcreate : t.create path = .ok (place, made)) :
    t.Opens path place ∧ made = t.set place (opened (t.node? place)) := by
  obtain ⟨found, hlast, hcreate⟩ := except_bind_eq_ok_iff.mp hcreate
  split at hcreate
  · cases hcreate
  · rename_i directory last slashed
    dsimp only at hcreate
    split at hcreate
    · cases hcreate
    · rename_i hordinary
      simp only [Bool.or_eq_true, beq_iff_eq, not_or, Bool.not_eq_true] at hordinary
      obtain ⟨⟨rfl, hstill⟩, hparent⟩ := hordinary
      split at hcreate
      · cases hcreate
      · rename_i hlength
        have hopens := opens_of_locateLast hlast hstill hparent (Nat.le_of_not_lt hlength)
        split at hcreate
        · cases hcreate
        · rename_i full hdevice
          cases hcreate
          refine ⟨hopens (by simp [hdevice]), ?_⟩
          rw [hdevice]
          rfl
        · rename_i hfile hdevice
          cases hcreate
          refine ⟨hopens hfile, ?_⟩
          rw [opened_eq_file hdevice]

theorem Opens.look_of_fill {t filled : FileTree} {path : String} {place : Place} {data : Bytes}
    (hopens : t.Opens path place)
    (hfill : (t.set place (opened (t.node? place))).fill place data = .ok filled) :
    filled.look path = .ok (.file data) ∨
      ∃ full, t.look path = .ok (.device full) ∧ filled.look path = .ok (.device full) := by
  have hroot : place ≠ [] := ne_nil_of_node? hopens.node?_ne
  unfold fill at hfill
  rw [node?_set_self _ hroot] at hfill
  by_cases hdevice : ∃ full, t.node? place = some (.device full)
  · obtain ⟨full, hdevice⟩ := hdevice
    have hkept : filled = t.set place (.device full) := by
      rw [hdevice, opened] at hfill
      cases full with
      | false => exact (Except.ok.inj hfill).symm
      | true =>
          dsimp only at hfill
          split at hfill
          · exact (Except.ok.inj hfill).symm
          · cases hfill
    subst hkept
    refine .inr ⟨full, hopens.look_eq hdevice, ?_⟩
    exact (hopens.set (by rintro ⟨⟩)).look_eq (node?_set_self _ hroot _)
  · rw [opened_eq_file fun full hnode => hdevice ⟨full, hnode⟩] at hfill
    obtain rfl := Except.ok.inj hfill
    have hempty : Node.file [] ≠ .directory := by rintro ⟨⟩
    have hfile : Node.file data ≠ .directory := by rintro ⟨⟩
    exact .inl (((hopens.set hempty).set hfile).look_eq (node?_set_self _ hroot _))

/-- **What is written is found again.**  After data is written, the path leads to a file with just
this data, unless it led to a device, and then it still does. -/
theorem look_of_write {t written : FileTree} {path : String} {data : Bytes}
    (hwrite : t.write path data = .ok written) :
    written.look path = .ok (.file data) ∨
      ∃ full, t.look path = .ok (.device full) ∧ written.look path = .ok (.device full) := by
  obtain ⟨⟨place, made⟩, hcreate, hfill⟩ := except_bind_eq_ok_iff.mp hwrite
  obtain ⟨hopens, rfl⟩ := create_eq_ok hcreate
  exact hopens.look_of_fill hfill

end FileTree

end MatchingDecomp
