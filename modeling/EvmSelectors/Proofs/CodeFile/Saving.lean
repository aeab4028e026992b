import EvmSelectors.Proofs.CodeFile
import EvmSelectors.Store.Layout

/-!
This module contains the laws of saving code: code that has been saved is read back, for as long as
nothing else is saved to the same file.
-/

namespace EvmSelectors

theorem Store.Device.take_nil (d : Device) : d.take [] = (d, none) := by
  cases d <;> rfl

theorem Store.store_openToWrite {s opened : Store} {path : String} {target : Target}
    (h : s.openToWrite path = .ok (target, opened)) : opened = (s.fill [] target).1 := by
  unfold openToWrite at h
  split at h
  · cases h
  · next loc _ =>
    cases h
    have haccept : s.accept loc [] = ([], none) := accept_of_takes (fun limit _ => Nat.zero_le _)
    rw [fst_fill_file, haccept]
  · cases h
    simp [fill, Device.take_nil]

namespace CodeFile

/--
What is written when a value is saved.
-/
def textOf (memory : Nat) (value : ByteSource) : Bytes :=
  match value.toBytes memory with
  | .error _ => []
  | .ok code => encode code

inductive Saving (memory : Nat) (s : Store) (path : String) (value : ByteSource) :
    Except SaveError Unit → Prop where
  | unopened {cause : Store.Cause} (h : s.targetAt path = .error cause) :
      Saving memory s path value (.error (.store { cause, path }))
  | unconverted {target : Store.Target} {e : ByteSource.Error} (h : s.targetAt path = .ok target)
      (hvalue : value.toBytes memory = .error e) : Saving memory s path value (.error (.bytes e))
  | refused {target : Store.Target} {code : Bytes} {r : Store.Refusal}
      (h : s.targetAt path = .ok target) (hvalue : value.toBytes memory = .ok code)
      (hfill : (s.fill (encode code) target).2 = some r) :
      Saving memory s path value (.error (.store { cause := .refused r, path }))
  | unmeasured {target : Store.Target} {code : Bytes} {count : Int} (h : s.targetAt path = .ok target)
      (hvalue : value.toBytes memory = .ok code) (hfill : (s.fill (encode code) target).2 = none)
      (hcount : value = .zeros count) : Saving memory s path value (.error .noLength)
  | saved {target : Store.Target} {code : Bytes} (h : s.targetAt path = .ok target)
      (hvalue : value.toBytes memory = .ok code) (hfill : (s.fill (encode code) target).2 = none)
      (hcount : ∀ count, value ≠ .zeros count) : Saving memory s path value (.ok ())

/--
Whatever becomes of a save, the store is the one that writing leaves behind.
-/
theorem saving_save (memory : Nat) (s : Store) (path : String) (value : ByteSource) :
    Saving memory s path value (save memory s path value).result
      ∧ (save memory s path value).store = (s.write path (textOf memory value)).store := by
  unfold save textOf
  cases htarget : s.targetAt path with
  | error cause =>
    rw [Store.openToWrite_eq_error_iff.2 ⟨cause, htarget, rfl⟩]
    exact ⟨.unopened htarget, (Store.store_write_of_targetAt_eq_error htarget _).symm⟩
  | ok target =>
    obtain ⟨opened, hopen, hfill⟩ := Store.openToWrite_of_targetAt_eq_ok htarget
    rw [hopen, Store.store_write_of_targetAt_eq_ok htarget]
    dsimp only
    cases hvalue : value.toBytes memory with
    | error e => exact ⟨.unconverted htarget hvalue, Store.store_openToWrite hopen⟩
    | ok code =>
      dsimp only
      rw [hfill]
      cases hfilled : s.fill (encode code) target with
      | mk after refusal =>
        cases refusal with
        | some r => exact ⟨.refused htarget hvalue (by rw [hfilled]), rfl⟩
        | none =>
          dsimp only
          split
          · exact ⟨.unmeasured htarget hvalue (by rw [hfilled]) rfl, rfl⟩
          · next hcount => exact ⟨.saved htarget hvalue (by rw [hfilled]) hcount, rfl⟩

section Save

variable {s : Store} {path : String} {loc : Location} (memory : Nat)

theorem sameTree_save (s : Store) (path : String) (value : ByteSource) :
    s.SameTree (save memory s path value).store := by
  rw [(saving_save memory s path value).2]
  apply Store.sameTree_write

theorem lookup?_save (h : ∀ target, s.targetAt path = .ok target → loc ≠ target.loc)
    (value : ByteSource) : (save memory s path value).store.lookup? loc = s.lookup? loc := by
  rw [(saving_save memory s path value).2]
  exact Store.lookup?_write h _

theorem lookup?_save_of_file (h : s.targetAt path = .ok (.file loc)) (value : ByteSource) :
    (save memory s path value).store.lookup? loc
      =
    some (.file (s.accept loc (textOf memory value)).1) := by
  rw [(saving_save memory s path value).2]
  exact Store.lookup?_write_of_file h _

theorem result_save_bytes_eq_ok_iff (h : s.targetAt path = .ok (.file loc)) (code : Bytes) :
    (save memory s path (.bytes code)).result = .ok () ↔ s.Takes loc (encode code) := by
  have hresult : (save memory s path (.bytes code)).result = .ok ()
      ↔ (s.write path (encode code)).result = .ok () := by
    rw [save_bytes_eq]
    dsimp only
    cases (s.write path (encode code)).result <;> simp [Except.mapError]
  rw [hresult, Store.result_write_eq_ok_iff, ← Store.accept_eq_none_iff]
  simp [h, Store.snd_fill_file]

theorem lookup?_save_of_result_eq_ok {code : Bytes} (h : s.targetAt path = .ok (.file loc))
    (hresult : (save memory s path (.bytes code)).result = .ok ()) :
    (save memory s path (.bytes code)).store.lookup? loc = some (.file (encode code)) := by
  rw [result_save_bytes_eq_ok_iff memory h] at hresult
  rw [lookup?_save_of_file memory h, textOf, ByteSource.toBytes]
  dsimp only
  rw [Store.accept_of_takes hresult]

end Save

theorem read_of_encode {s : Store} {path : String} {code : Bytes}
    (h : s.read path = .ok (encode code)) : read s path = (.ok code, []) :=
  read_eq_of_decode_eq h ((isText_encode code).decode_eq path)

theorem not_isBlank_of_mem_encode {code : Bytes} {b : UInt8} (h : b ∈ encode code) : ¬isBlank b := by
  have htext := Hex.spells_encode code
  rw [encode, Bytes.ofAscii, List.mem_map] at h
  obtain ⟨c, hc, rfl⟩ := h
  rw [isBlank_ofNat (htext.toNat_lt c hc), htext.isBlank_eq_false c hc]
  exact Bool.false_ne_true

/--
A setting ends with a line feed, which no saved code does.
-/
theorem content?_setting_ne_encode (value : Int) (code : Bytes) :
    (Store.Device.setting value).content? ≠ some (encode code) := by
  rw [Store.Device.content?]
  intro h
  rw [Option.some.injEq] at h
  have hmem : 0x0a ∈ encode code := by
    rw [← h, String.toList_append, Bytes.ofAscii, List.map_append, List.mem_append]
    exact .inr (by decide)
  exact not_isBlank_of_mem_encode hmem (by decide)

/--
Saving code where it is read from changes nothing.
-/
theorem lookup?_save_again {memory : Nat} {s : Store} {path : String} {code : Bytes}
    (h : s.read path = .ok (encode code))
    (hresult : (save memory s path (.bytes code)).result = .ok ()) (loc : Location) :
    (save memory s path (.bytes code)).store.lookup? loc = s.lookup? loc := by
  by_cases hother : ∀ target, s.targetAt path = .ok target → loc ≠ target.loc
  · exact lookup?_save memory hother (.bytes code)
  · simp only [Classical.not_forall, Decidable.not_not] at hother
    obtain ⟨target, htarget, rfl⟩ := hother
    obtain ⟨hleads, htargetOf⟩ := Store.targetAt_eq_ok_iff.1 htarget
    rw [Store.read_eq_ok_iff, hleads.contentAt_eq, Store.contentOf_eq_ok_iff] at h
    obtain ⟨-, entry, hentry, hcontent⟩ := h
    cases target with
    | file loc =>
      rw [Store.loc_file] at hentry
      rw [Store.loc_file, lookup?_save_of_result_eq_ok memory htarget hresult]
      rcases (Store.targetOf_eq_file_iff.1 htargetOf).2 with ⟨⟨content, hfile⟩, -⟩ | ⟨hnone, -⟩
      · rw [Store.loc_file, hentry] at hfile
        cases hfile
        cases hcontent
        exact hentry.symm
      · simp [hentry] at hnone
    | device loc d =>
      obtain ⟨-, hdevice, -⟩ := Store.targetOf_eq_device_iff.1 htargetOf
      rw [hentry] at hdevice
      cases hdevice
      rw [Store.content_device_eq_ok_iff] at hcontent
      rw [(saving_save memory s path _).2, Store.store_write_of_targetAt_eq_ok htarget, Store.fill]
      cases d with
      | sink | zeros | full => rfl
      | setting value => exact absurd hcontent (content?_setting_ne_encode value code)

/--
The stores that a store becomes by saves, each of which saves anything to something else than what the
path leads to, or saves at the path what is read there. What files take may change from one save to
another.
-/
inductive Later (path : String) (s : Store) : Store → Prop where
  | now : Later path s s
  | elsewhere {later : Store} {other : String} (h : Later path s later)
      (hother : ∀ target, later.targetAt other = .ok target → ¬later.Leads path target.loc)
      (memory : Nat) (value : ByteSource) : Later path s (save memory later other value).store
  | again {later : Store} {code : Bytes} {memory : Nat} (h : Later path s later)
      (hread : (read later path).1 = .ok code)
      (hresult : (save memory later path (.bytes code)).result = .ok ()) :
      Later path s (save memory later path (.bytes code)).store
  | limited {later : Store} (h : Later path s later) (limits : List (Location × Store.Limit)) :
      Later path s { later with limits }

theorem sameTree_limited (s : Store) (limits : List (Location × Store.Limit)) :
    s.SameTree { s with limits } where
  home := rfl
  denied := rfl
  directory _ := Iff.rfl
  device _ := Iff.rfl

theorem Later.sameTree {path : String} {s later : Store} (h : Later path s later) :
    s.SameTree later := by
  induction h with
  | now => apply Store.SameTree.refl
  | elsewhere _ _ memory value ih => exact ih.trans (sameTree_save memory _ _ value)
  | again _ _ _ ih => exact ih.trans (sameTree_save _ _ path _)
  | limited _ limits ih => exact ih.trans (sameTree_limited _ limits)

theorem Later.lookup?_eq {path : String} {s later : Store} {loc : Location} {code : Bytes}
    (h : Later path s later) (hleads : s.Leads path loc) (hread : s.permits .read loc)
    (hfile : s.lookup? loc = some (.file (encode code))) :
    later.lookup? loc = some (.file (encode code)) := by
  induction h with
  | now => exact hfile
  | elsewhere h hother memory value ih =>
    rw [lookup?_save memory _ value, ih]
    rintro target htarget rfl
    exact hother target htarget (h.sameTree.leads_iff.2 hleads)
  | @again later code' memory h hcode hresult ih =>
    have hcontent : later.read path = .ok (encode code) := by
      apply (h.sameTree.leads_iff.2 hleads).read_of_file ih
      rw [h.sameTree.permits_eq, hread]
    rw [read_of_encode hcontent] at hcode
    cases hcode
    rw [lookup?_save_again hcontent hresult, ih]
  | limited _ _ ih => exact ih

end CodeFile
end EvmSelectors
