import EvmSelectors.Store

/-!
This module contains the laws of the store: writing changes at most what a path leads to, whether all of
it is taken or not, and where paths lead does not depend on the files that are there.
-/

namespace EvmSelectors
namespace Store

theorem put_put (s : Store) (loc : Location) (entry entry' : Entry) :
    (s.put loc entry).put loc entry' = s.put loc entry' := by
  simp [put, List.filter_filter]

theorem enter_eq_ok_iff {s : Store} {loc dir : Location} {name : String} :
    s.enter loc name = .ok dir
      ↔
    if name = "" then dir = loc
    else
      s.permits .search loc
        ∧ if name = "." then dir = loc
          else if name = ".." then dir = loc.dropLast
          else
            name.utf8ByteSize ≤ maxName
              ∧ s.lookup? (loc ++ [name]) = some .directory
              ∧ dir = loc ++ [name] := by
  unfold enter
  split
  · simp [eq_comm]
  · split
    · next hsearch => simp_all
    · next hsearch =>
      rw [Bool.not_eq_true', Bool.not_eq_false] at hsearch
      split
      · simp [hsearch, eq_comm]
      · split
        · simp [hsearch, eq_comm]
        · split
          · simp [hsearch]
            omega
          · next hname =>
            rw [Nat.not_lt] at hname
            cases s.lookup? (loc ++ [name]) with
            | none => simp
            | some entry => cases entry <;> simp [hsearch, hname, eq_comm]

theorem walk_cons_eq_ok_iff {s : Store} {loc dir : Location} {name : String} {rest : List String} :
    s.walk loc (name :: rest) = .ok dir
      ↔
    ∃ next, s.enter loc name = .ok next ∧ s.walk next rest = .ok dir := by
  rw [walk]
  cases s.enter loc name <;> simp

theorem lastName_eq_ok_some_iff {s : Store} {loc dir : Location} {names : List String} {name : String} :
    s.lastName loc names = .ok (dir, some name)
      ↔
    s.walk loc names.dropLast = .ok dir
      ∧ names.getLast? = some name
      ∧ ¬(isHere name ∨ name = "..")
      ∧ s.permits .search dir := by
  unfold lastName
  cases s.walk loc names.dropLast with
  | error e => simp
  | ok dir' =>
    cases names.getLast? with
    | none => simp
    | some name' =>
      dsimp only
      split
      · cases s.enter dir' name' <;> simp <;> grind
      · split <;> grind

theorem contentOf_eq_ok_iff {s : Store} {loc : Location} {content : Bytes} :
    s.contentOf loc = .ok content
      ↔
    s.permits .read loc ∧ ∃ entry, s.lookup? loc = some entry ∧ entry.content = .ok content := by
  unfold contentOf
  cases s.lookup? loc with
  | none => simp
  | some entry => cases s.permits .read loc <;> simp

theorem content_device_eq_ok_iff {d : Device} {content : Bytes} :
    (Entry.device d).content = .ok content ↔ d.content? = some content := by
  rw [Entry.content]
  cases d.content? <;> simp

/--
The location that a path leads to, in a directory that is there and may be searched. No slash stands at
the end.
-/
def Leads (s : Store) (path : String) (loc : Location) : Prop :=
  ∃ names dir name,
    openable path = .ok names
      ∧ withoutLast (· == "") names = names
      ∧ s.lastName (s.start path) names = .ok (dir, some name)
      ∧ name.utf8ByteSize ≤ maxName
      ∧ loc = dir ++ [name]

theorem Leads.ne_nil {s : Store} {path : String} {loc : Location} (h : s.Leads path loc) :
    loc ≠ [] := by
  obtain ⟨_, _, _, -, -, -, -, rfl⟩ := h
  simp

theorem withoutLast_eq_self_iff {p : String → Bool} {names : List String} :
    withoutLast p names = names ↔ ¬(withoutLast p names).length < names.length := by
  have hsuffix : names.reverse.dropWhile p <:+ names.reverse := List.dropWhile_suffix p
  have hlen := hsuffix.length_le
  constructor
  · intro h
    rw [h]
    omega
  · intro h
    simp only [withoutLast, List.length_reverse] at h hlen ⊢
    rw [hsuffix.eq_of_length (by rw [List.length_reverse]; omega), List.reverse_reverse]

theorem withoutLast_of_getLast? {p : String → Bool} {names : List String} {name : String}
    (h : names.getLast? = some name) (hname : ¬p name) : withoutLast p names = names := by
  obtain ⟨init, rfl⟩ := List.getLast?_eq_some_iff.1 h
  simp [withoutLast, hname]

theorem Leads.contentAt_eq {s : Store} {path : String} {loc : Location} (h : s.Leads path loc) :
    s.contentAt path = s.contentOf loc := by
  obtain ⟨names, dir, name, hnames, -, hlast, hname, rfl⟩ := h
  unfold contentAt
  rw [hnames]
  dsimp only
  rw [hlast]
  dsimp only
  rw [if_neg (by omega)]

theorem Leads.targetAt_eq {s : Store} {path : String} {loc : Location} (h : s.Leads path loc) :
    s.targetAt path = s.targetOf loc := by
  obtain ⟨names, dir, name, hnames, hproper, hlast, hname, rfl⟩ := h
  unfold targetAt
  rw [hnames]
  dsimp only
  rw [hproper, hlast]
  dsimp only
  rw [if_neg (by omega), if_neg (by omega)]

theorem exists_leads_of_targetAt_eq_ok {s : Store} {path : String} {target : Target}
    (h : s.targetAt path = .ok target) : ∃ loc, s.Leads path loc := by
  unfold targetAt at h
  split at h
  · cases h
  · next names hnames =>
    dsimp only at h
    split at h
    · cases h
    · cases h
    · next dir name hlast =>
      split at h
      · cases h
      · next hlen =>
        rw [← withoutLast_eq_self_iff] at hlen
        rw [hlen] at hlast
        split at h
        · cases h
        · exact ⟨dir ++ [name], names, dir, name, hnames, hlen, hlast, by omega, rfl⟩

@[simp]
theorem loc_file (loc : Location) : (Target.file loc).loc = loc := rfl

@[simp]
theorem loc_device (loc : Location) (d : Device) : (Target.device loc d).loc = loc := rfl

theorem targetOf_eq_file_iff {s : Store} {loc loc' : Location} :
    s.targetOf loc = .ok (.file loc')
      ↔
    loc' = loc
      ∧ ((∃ content, s.lookup? loc = some (.file content)) ∧ s.permits .write loc
        ∨ s.lookup? loc = none ∧ s.permits .write loc.dropLast) := by
  unfold targetOf
  cases s.lookup? loc with
  | none => grind
  | some entry => cases entry <;> grind

theorem targetOf_eq_device_iff {s : Store} {loc loc' : Location} {d : Device} :
    s.targetOf loc = .ok (.device loc' d)
      ↔
    loc' = loc ∧ s.lookup? loc = some (.device d) ∧ s.permits .write loc := by
  unfold targetOf
  cases s.lookup? loc with
  | none => grind
  | some entry => cases entry <;> grind

theorem loc_of_targetOf_eq_ok {s : Store} {loc : Location} {target : Target}
    (h : s.targetOf loc = .ok target) : target.loc = loc := by
  cases target with
  | file loc' => exact (targetOf_eq_file_iff.1 h).1
  | device loc' d => exact (targetOf_eq_device_iff.1 h).1

theorem targetAt_eq_ok_iff {s : Store} {path : String} {target : Target} :
    s.targetAt path = .ok target ↔ s.Leads path target.loc ∧ s.targetOf target.loc = .ok target := by
  constructor
  · intro h
    obtain ⟨loc, hleads⟩ := exists_leads_of_targetAt_eq_ok h
    rw [hleads.targetAt_eq] at h
    rw [loc_of_targetOf_eq_ok h]
    exact ⟨hleads, h⟩
  · rintro ⟨hleads, htarget⟩
    rw [hleads.targetAt_eq, htarget]

/--
Two stores with the same rights and the same directories, and with devices at the same locations.
-/
structure SameTree (s s' : Store) : Prop where
  home : s'.home = s.home
  denied : s'.denied = s.denied
  directory (loc : Location) : s'.lookup? loc = some .directory ↔ s.lookup? loc = some .directory
  device (loc : Location) :
    (∃ d, s'.lookup? loc = some (.device d)) ↔ ∃ d, s.lookup? loc = some (.device d)

namespace SameTree

variable {s s' : Store}

theorem refl (s : Store) : SameTree s s := by
  constructor
  · rfl
  · rfl
  · intro loc
    rfl
  · intro loc
    rfl

theorem trans {s'' : Store} (h : SameTree s s') (h' : SameTree s' s'') : SameTree s s'' := by
  constructor
  · rw [h'.home, h.home]
  · rw [h'.denied, h.denied]
  · intro loc
    rw [h'.directory, h.directory]
  · intro loc
    rw [h'.device, h.device]

theorem permits_eq (h : SameTree s s') (right : Right) (loc : Location) :
    s'.permits right loc = s.permits right loc := by
  rw [permits, h.denied, permits]

theorem walk_eq_ok_iff (h : SameTree s s') {loc dir : Location} {names : List String} :
    s'.walk loc names = .ok dir ↔ s.walk loc names = .ok dir := by
  induction names generalizing loc with
  | nil => rfl
  | cons name rest ih =>
    simp only [walk_cons_eq_ok_iff, enter_eq_ok_iff, h.directory, h.permits_eq, ih]

theorem leads_iff (h : SameTree s s') {path : String} {loc : Location} :
    s'.Leads path loc ↔ s.Leads path loc := by
  unfold Leads start
  simp only [lastName_eq_ok_some_iff, h.walk_eq_ok_iff, h.permits_eq, h.home]

theorem targetOf_eq (h : SameTree s s') {loc : Location} (hloc : s'.lookup? loc = s.lookup? loc) :
    s'.targetOf loc = s.targetOf loc := by
  unfold targetOf
  rw [hloc, h.permits_eq, h.permits_eq]

end SameTree

theorem sameTree_put {s : Store} {loc : Location} {entry : Entry} (hloc : loc ≠ [])
    (hdirectory : entry = .directory ↔ s.lookup? loc = some .directory)
    (hdevice : (∃ d, entry = .device d) ↔ ∃ d, s.lookup? loc = some (.device d)) :
    SameTree s (s.put loc entry) := by
  have hself : (s.put loc entry).lookup? loc = some entry := lookup?_put_self hloc
  constructor
  · rfl
  · rfl
  · intro other
    by_cases hother : other = loc
    · rw [hother, hself, Option.some.injEq, hdirectory]
    · rw [lookup?_put_of_ne hother]
  · intro other
    by_cases hother : other = loc
    · simp only [hother, hself, Option.some.injEq, hdevice]
    · simp only [lookup?_put_of_ne hother]

/--
Whether a file takes a content whole.
-/
def Takes (s : Store) (loc : Location) (content : Bytes) : Prop :=
  ∀ limit, s.limit? loc = some limit → content.length ≤ limit.room

theorem accept_of_takes {s : Store} {loc : Location} {content : Bytes} (h : s.Takes loc content) :
    s.accept loc content = (content, none) := by
  unfold accept
  split
  · rfl
  · next limit hlimit => rw [if_pos (h limit hlimit)]

theorem accept_of_not_takes {s : Store} {loc : Location} {content : Bytes} (h : ¬s.Takes loc content) :
    ∃ limit,
      s.limit? loc = some limit
        ∧ limit.room < content.length
        ∧ s.accept loc content = (content.take limit.room, some limit.refusal) := by
  unfold Takes at h
  simp only [Classical.not_forall, Nat.not_le] at h
  obtain ⟨limit, hlimit, hroom⟩ := h
  refine ⟨limit, hlimit, hroom, ?_⟩
  rw [accept, hlimit]
  dsimp only
  rw [if_neg (by omega)]

theorem accept_eq_none_iff {s : Store} {loc : Location} {content : Bytes} :
    (s.accept loc content).2 = none ↔ s.Takes loc content := by
  by_cases h : s.Takes loc content
  · simp [accept_of_takes h, h]
  · obtain ⟨limit, -, -, haccept⟩ := accept_of_not_takes h
    simp [haccept, h]

theorem fst_fill_file (s : Store) (loc : Location) (content : Bytes) :
    (s.fill content (.file loc)).1 = s.put loc (.file (s.accept loc content).1) := rfl

theorem snd_fill_file (s : Store) (loc : Location) (content : Bytes) :
    (s.fill content (.file loc)).2 = (s.accept loc content).2 := rfl

theorem accept_of_refused {s : Store} {loc : Location} {content : Bytes} {r : Refusal}
    (h : (s.fill content (.file loc)).2 = some r) :
    ∃ limit,
      s.limit? loc = some limit
        ∧ limit.room < content.length
        ∧ s.accept loc content = (content.take limit.room, some limit.refusal) := by
  apply accept_of_not_takes
  rw [← accept_eq_none_iff, ← snd_fill_file, h]
  simp

theorem lookup?_fill_of_ne {s : Store} {target : Target} {loc : Location} (h : loc ≠ target.loc)
    (content : Bytes) : (s.fill content target).1.lookup? loc = s.lookup? loc := by
  cases target with
  | file loc' => exact lookup?_put_of_ne h
  | device loc' d =>
    rw [fill]
    dsimp only
    split
    · rfl
    · exact lookup?_put_of_ne h

theorem sameTree_fill {s : Store} {path : String} {target : Target} (h : s.targetAt path = .ok target)
    (content : Bytes) : SameTree s (s.fill content target).1 := by
  obtain ⟨hleads, htarget⟩ := targetAt_eq_ok_iff.1 h
  cases target with
  | file loc =>
    rw [loc_file] at htarget
    have hother : s.lookup? loc ≠ some .directory ∧ ∀ d, s.lookup? loc ≠ some (.device d) := by
      rcases (targetOf_eq_file_iff.1 htarget).2 with ⟨⟨content', hfile⟩, -⟩ | ⟨hnone, -⟩
      · simp [hfile]
      · simp [hnone]
    apply sameTree_put hleads.ne_nil
    · simp [hother.1]
    · simp [hother.2]
  | device loc d =>
    rw [loc_device] at htarget
    have hdevice := (targetOf_eq_device_iff.1 htarget).2.1
    rw [fill]
    dsimp only
    split
    · apply SameTree.refl
    · apply sameTree_put hleads.ne_nil
      · simp [hdevice]
      · simp [hdevice]

/--
All that writing can do: the path is not opened, or what it leads to takes the content or a part of it.
-/
inductive Writing (s : Store) (path : String) (content : Bytes) : Store → Except Error Unit → Prop where
  | unopened {cause : Cause} (h : s.targetAt path = .error cause) :
      Writing s path content s (.error { cause, path })
  | taken {target : Target} (h : s.targetAt path = .ok target)
      (hfill : (s.fill content target).2 = none) :
      Writing s path content (s.fill content target).1 (.ok ())
  | refused {target : Target} {r : Refusal} (h : s.targetAt path = .ok target)
      (hfill : (s.fill content target).2 = some r) :
      Writing s path content (s.fill content target).1 (.error { cause := .refused r, path })

/--
What is filled has been emptied before, which leaves no trace.
-/
theorem fill_put_nil (s : Store) (loc : Location) (content : Bytes) :
    (s.put loc (.file [])).fill content (.file loc) = s.fill content (.file loc) := by
  have haccept : (s.put loc (.file [])).accept loc content = s.accept loc content := rfl
  rw [fill, fill, haccept]
  dsimp only
  rw [put_put]

theorem openToWrite_of_targetAt_eq_ok {s : Store} {path : String} {target : Target}
    (h : s.targetAt path = .ok target) :
    ∃ opened,
      s.openToWrite path = .ok (target, opened)
        ∧ ∀ content, opened.fill content target = s.fill content target := by
  unfold openToWrite
  rw [h]
  cases target with
  | file loc => exact ⟨_, rfl, fill_put_nil s loc⟩
  | device loc d => exact ⟨_, rfl, fun _ => rfl⟩

theorem openToWrite_eq_error_iff {s : Store} {path : String} {e : Error} :
    s.openToWrite path = .error e ↔ ∃ cause, s.targetAt path = .error cause ∧ e = { cause, path } := by
  unfold openToWrite
  cases s.targetAt path with
  | error cause => simp [eq_comm]
  | ok target => cases target <;> simp

theorem writing_write (s : Store) (path : String) (content : Bytes) :
    Writing s path content (s.write path content).store (s.write path content).result := by
  unfold write
  cases htarget : s.targetAt path with
  | error cause =>
    rw [openToWrite_eq_error_iff.2 ⟨cause, htarget, rfl⟩]
    exact .unopened htarget
  | ok target =>
    obtain ⟨opened, hopen, hfill⟩ := openToWrite_of_targetAt_eq_ok htarget
    rw [hopen]
    dsimp only
    rw [hfill]
    have hsame : s.fill content target = ((s.fill content target).1, (s.fill content target).2) := rfl
    rw [hsame]
    cases hrefusal : (s.fill content target).2 with
    | none => exact .taken htarget hrefusal
    | some r => exact .refused htarget hrefusal

section Write

variable {s : Store} {path : String}

theorem store_write_of_targetAt_eq_error {cause : Cause} (h : s.targetAt path = .error cause)
    (content : Bytes) : (s.write path content).store = s := by
  have hwriting := writing_write s path content
  generalize (s.write path content).store = after, (s.write path content).result = result at hwriting
  cases hwriting with
  | unopened => rfl
  | taken htarget | refused htarget => simp [h] at htarget

theorem store_write_of_targetAt_eq_ok {target : Target} (h : s.targetAt path = .ok target)
    (content : Bytes) : (s.write path content).store = (s.fill content target).1 := by
  have hwriting := writing_write s path content
  generalize (s.write path content).store = after, (s.write path content).result = result at hwriting
  cases hwriting with
  | unopened htarget => simp [h] at htarget
  | taken htarget | refused htarget =>
    rw [h, Except.ok.injEq] at htarget
    rw [htarget]

theorem sameTree_write (s : Store) (path : String) (content : Bytes) :
    SameTree s (s.write path content).store := by
  cases htarget : s.targetAt path with
  | error cause =>
    rw [store_write_of_targetAt_eq_error htarget]
    apply SameTree.refl
  | ok target =>
    rw [store_write_of_targetAt_eq_ok htarget]
    exact sameTree_fill htarget content

/--
A write changes nothing but what its path leads to.
-/
theorem lookup?_write {loc : Location} (h : ∀ target, s.targetAt path = .ok target → loc ≠ target.loc)
    (content : Bytes) : (s.write path content).store.lookup? loc = s.lookup? loc := by
  cases htarget : s.targetAt path with
  | error cause => rw [store_write_of_targetAt_eq_error htarget]
  | ok target =>
    rw [store_write_of_targetAt_eq_ok htarget]
    exact lookup?_fill_of_ne (h target htarget) content

theorem lookup?_write_of_file {loc : Location} (h : s.targetAt path = .ok (.file loc))
    (content : Bytes) :
    (s.write path content).store.lookup? loc = some (.file (s.accept loc content).1) := by
  rw [store_write_of_targetAt_eq_ok h, fst_fill_file]
  exact lookup?_put_self (targetAt_eq_ok_iff.1 h).1.ne_nil

theorem result_write_eq_ok_iff {content : Bytes} :
    (s.write path content).result = .ok ()
      ↔
    ∃ target, s.targetAt path = .ok target ∧ (s.fill content target).2 = none := by
  have hwriting := writing_write s path content
  generalize (s.write path content).store = after, (s.write path content).result = result at hwriting
  cases hwriting with
  | unopened h => simp [h]
  | taken h hfill => simp [h, hfill]
  | refused h hfill => simp [h, hfill]

theorem result_write_eq_error_iff {content : Bytes} {e : Error} :
    (s.write path content).result = .error e
      ↔
    (∃ cause, s.targetAt path = .error cause ∧ e = { cause, path })
      ∨ (∃ target r,
          s.targetAt path = .ok target
            ∧ (s.fill content target).2 = some r
            ∧ e = { cause := .refused r, path }) := by
  have hwriting := writing_write s path content
  generalize (s.write path content).store = after, (s.write path content).result = result at hwriting
  cases hwriting with
  | unopened h => simp [h, eq_comm]
  | taken h hfill => simp [h, hfill]
  | refused h hfill => simp [h, hfill, eq_comm]

/--
What can be written to after a write could be before it.
-/
theorem exists_targetAt_of_write {other : String} {content : Bytes} {target : Target}
    (h : (s.write path content).store.targetAt other = .ok target) :
    ∃ target', s.targetAt other = .ok target' ∧ target'.loc = target.loc := by
  have htree := sameTree_write s path content
  obtain ⟨hleads, htarget⟩ := targetAt_eq_ok_iff.1 h
  rw [htree.leads_iff] at hleads
  by_cases hwritten : ∃ target', s.targetAt path = .ok target' ∧ target'.loc = target.loc
  · -- Both paths lead to the same location, and the other one was opened.
    obtain ⟨target', hopened, hloc⟩ := hwritten
    refine ⟨target', ?_, hloc⟩
    rw [hleads.targetAt_eq, ← hloc]
    exact (targetAt_eq_ok_iff.1 hopened).2
  · have hlookup : (s.write path content).store.lookup? target.loc = s.lookup? target.loc := by
      apply lookup?_write
      intro target' htarget' hloc
      exact hwritten ⟨target', htarget', hloc.symm⟩
    refine ⟨target, ?_, rfl⟩
    rw [hleads.targetAt_eq, ← htree.targetOf_eq hlookup, htarget]

end Write

theorem read_eq_error_iff {s : Store} {path : String} {e : Error} :
    s.read path = .error e ↔ ∃ cause, s.contentAt path = .error cause ∧ e = { cause, path } := by
  unfold read
  cases s.contentAt path with
  | error cause => simp [eq_comm]
  | ok content => simp

theorem read_eq_ok_iff {s : Store} {path : String} {content : Bytes} :
    s.read path = .ok content ↔ s.contentAt path = .ok content := by
  unfold read
  cases s.contentAt path <;> simp

theorem Leads.read_of_file {s : Store} {path : String} {loc : Location} {content : Bytes}
    (h : s.Leads path loc) (hfile : s.lookup? loc = some (.file content)) (hread : s.permits .read loc) :
    s.read path = .ok content := by
  rw [read_eq_ok_iff, h.contentAt_eq, contentOf_eq_ok_iff]
  exact ⟨hread, _, hfile, rfl⟩

section HoldsAt

variable {s : Store} {path : String} {content : Bytes}

end HoldsAt

/--
Whether an error is one of following the names in a path.
-/
def Cause.isOfNames : Cause → Bool
  | notFound | notDirectory | nameTooLong | denied => true
  | nulCharacter | isDirectory | endless | refused _ => false

section Cause

variable {s : Store} {path : String} {loc : Location} {cause : Cause}

theorem openable_eq_nul_iff : openable path = .error .nulCharacter ↔ '\x00' ∈ path.toList := by
  unfold openable
  grind

theorem isOfNames_of_openable (h : openable path = .error cause) :
    cause = .nulCharacter ∨ cause.isOfNames := by
  unfold openable at h
  grind [Cause.isOfNames]

theorem isOfNames_of_enter {name : String} (h : s.enter loc name = .error cause) :
    cause.isOfNames := by
  unfold enter at h
  grind [Cause.isOfNames]

theorem isOfNames_of_walk {names : List String} (h : s.walk loc names = .error cause) :
    cause.isOfNames := by
  induction names generalizing loc with
  | nil => cases h
  | cons name rest ih =>
    rw [walk] at h
    split at h
    · next henter =>
      cases h
      exact isOfNames_of_enter henter
    · exact ih h

theorem isOfNames_of_lastName {names : List String} (h : s.lastName loc names = .error cause) :
    cause.isOfNames := by
  unfold lastName at h
  split at h
  · next hwalk =>
    cases h
    exact isOfNames_of_walk hwalk
  · split at h
    · cases h
    · split at h
      · split at h
        · next henter =>
          cases h
          exact isOfNames_of_enter henter
        · cases h
      · split at h
        · cases h
        · cases h
          rfl

theorem of_contentOf_eq_error (h : s.contentOf loc = .error cause) :
    cause = .isDirectory ∨ cause = .endless ∨ cause.isOfNames := by
  unfold contentOf Entry.content at h
  grind [Cause.isOfNames]

theorem of_targetOf_eq_error (h : s.targetOf loc = .error cause) :
    cause = .isDirectory ∨ cause = .denied := by
  unfold targetOf at h
  grind

theorem of_contentAt_eq_error (h : s.contentAt path = .error cause) :
    openable path = .error cause
      ∨ cause = .isDirectory
      ∨ cause = .endless
      ∨ cause.isOfNames := by
  unfold contentAt at h
  grind [isOfNames_of_lastName, of_contentOf_eq_error, Cause.isOfNames]

theorem of_targetAt_eq_error (h : s.targetAt path = .error cause) :
    openable path = .error cause ∨ cause = .isDirectory ∨ cause.isOfNames := by
  unfold targetAt at h
  grind [isOfNames_of_lastName, of_targetOf_eq_error, Cause.isOfNames]

theorem contentAt_eq_nul_iff :
    s.contentAt path = .error .nulCharacter ↔ '\x00' ∈ path.toList := by
  rw [← openable_eq_nul_iff]
  constructor
  · intro h
    simpa [Cause.isOfNames] using of_contentAt_eq_error h
  · intro h
    rw [contentAt, h]

theorem targetAt_eq_nul_iff : s.targetAt path = .error .nulCharacter ↔ '\x00' ∈ path.toList := by
  rw [← openable_eq_nul_iff]
  constructor
  · intro h
    simpa [Cause.isOfNames] using of_targetAt_eq_error h
  · intro h
    rw [targetAt, h]

theorem targetAt_ne_endless (s : Store) (path : String) : s.targetAt path ≠ .error .endless := by
  intro h
  rcases of_targetAt_eq_error h with hopenable | hcause | hcause
  · simpa [Cause.isOfNames] using isOfNames_of_openable hopenable
  · cases hcause
  · cases hcause

theorem names_of_not_mem (h : '/' ∉ path.toList) : names path = [path] := by
  rw [names, List.splitOn_eq_singleton h, List.map_singleton, String.ofList_toList]

/--
The working directory is there, so that a file of which the path is only its name can be made.
-/
theorem targetAt_ne_notFound (h : '/' ∉ path.toList) (hpath : path ≠ "") (s : Store) :
    s.targetAt path ≠ .error .notFound := by
  have hlast : s.lastName (s.start path) [path] ≠ .error .notFound := by
    unfold lastName enter
    simp only [List.dropLast_singleton, walk, List.getLast?_singleton, isHere]
    grind
  have hproper : withoutLast (· == "") [path] = [path] :=
    withoutLast_of_getLast? rfl (by simpa using hpath)
  unfold targetAt openable
  rw [if_neg hpath, names_of_not_mem h]
  grind [of_targetOf_eq_error]

end Cause

end Store
end EvmSelectors
