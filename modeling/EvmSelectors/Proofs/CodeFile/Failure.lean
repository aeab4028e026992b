import EvmSelectors.Proofs.CodeFile.Saving

/-!
This module contains the laws of saves that fail. The file is opened before the value is looked at, so
that a value that is no sequence of bytes costs the file its content. So does a write of which a part is
refused.
-/

namespace EvmSelectors
namespace ByteSource

/--
Whether a value is a sequence of bytes, and not a count of them or no byte string at all.
-/
def IsSequence (value : ByteSource) : Prop :=
  ∃ b : Bytes, value = .bytes b ∨ value = .octets (b.map (fun x => some (x.toNat : Int)))

theorem octet_toNat (x : UInt8) : octet (some (x.toNat : Int)) = .ok x := by
  have hx := x.toNat_lt
  rw [octet, if_pos (by omega), Int.toNat_natCast, UInt8.ofNat_toNat]

theorem toBytes_octets_map (memory : Nat) (b : Bytes) :
    (octets (b.map (fun x => some (x.toNat : Int)))).toBytes memory = .ok b := by
  rw [toBytes]
  induction b with
  | nil => rfl
  | cons x b ih =>
    rw [List.map_cons, List.mapM_cons, octet_toNat, ih]
    rfl

theorem IsSequence.exists_toBytes_eq_ok {value : ByteSource} (h : value.IsSequence) (memory : Nat) :
    ∃ b, value.toBytes memory = .ok b := by
  obtain ⟨b, rfl | rfl⟩ := h
  · exact ⟨b, rfl⟩
  · exact ⟨b, toBytes_octets_map memory b⟩

theorem IsSequence.ne_zeros {value : ByteSource} (h : value.IsSequence) (count : Int) :
    value ≠ .zeros count := by
  obtain ⟨b, rfl | rfl⟩ := h <;> simp

end ByteSource

namespace CodeFile

/--
What a failed save leaves in the file that it has opened: nothing if the value is no byte string, the
front of the text that the file did not take whole, or all of the text for a count of zero bytes.
-/
inductive Spoilt (memory : Nat) (s : Store) (loc : Location) (value : ByteSource) : Bytes → Prop where
  | unconverted {e : ByteSource.Error} (hvalue : value.toBytes memory = .error e) :
      Spoilt memory s loc value []
  | refused {code : Bytes} {limit : Store.Limit} (hvalue : value.toBytes memory = .ok code)
      (hlimit : s.limit? loc = some limit) (hroom : limit.room < (encode code).length) :
      Spoilt memory s loc value ((encode code).take limit.room)
  | unmeasured {code : Bytes} {count : Int} (hvalue : value.toBytes memory = .ok code)
      (hcount : value = .zeros count) : Spoilt memory s loc value (encode code)

section Failure

variable {memory : Nat} {s : Store} {path : String} {value : ByteSource} {e : SaveError}

theorem store_save_of_targetAt_eq_error {cause : Store.Cause} (h : s.targetAt path = .error cause) :
    (save memory s path value).store = s := by
  rw [(saving_save memory s path value).2, Store.store_write_of_targetAt_eq_error h]

theorem store_save_of_device {loc : Location} {d : Store.Device}
    (h : s.targetAt path = .ok (.device loc d)) (hd : ∀ n, d ≠ .setting n) :
    (save memory s path value).store = s := by
  rw [(saving_save memory s path value).2, Store.store_write_of_targetAt_eq_ok h, Store.fill]
  cases d with
  | sink | zeros | full => rfl
  | setting n => exact absurd rfl (hd n)

theorem exists_spoilt_of_save_eq_error {loc : Location}
    (h : (save memory s path value).result = .error e) (htarget : s.targetAt path = .ok (.file loc)) :
    ∃ content,
      (save memory s path value).store.lookup? loc = some (.file content)
        ∧ Spoilt memory s loc value content := by
  have hsaving := (saving_save memory s path value).1
  rw [h] at hsaving
  rw [lookup?_save_of_file memory htarget, textOf]
  refine ⟨_, rfl, ?_⟩
  cases hsaving with
  | unopened htarget' => simp [htarget] at htarget'
  | unconverted _ hvalue =>
    rw [hvalue]
    dsimp only
    rw [Store.accept_of_takes (fun limit _ => Nat.zero_le _)]
    exact .unconverted hvalue
  | refused htarget' hvalue hfill =>
    rw [htarget] at htarget'
    cases htarget'
    rw [hvalue]
    dsimp only
    obtain ⟨limit, hlimit, hroom, haccept⟩ := Store.accept_of_refused hfill
    rw [haccept]
    exact .refused hvalue hlimit hroom
  | unmeasured htarget' hvalue hfill hcount =>
    rw [htarget] at htarget'
    cases htarget'
    rw [Store.snd_fill_file, Store.accept_eq_none_iff] at hfill
    rw [hvalue]
    dsimp only
    rw [Store.accept_of_takes hfill]
    exact .unmeasured hvalue hcount

theorem store_save_of_isSequence (h : (save memory s path value).result = .error e)
    (hvalue : value.IsSequence) :
    (save memory s path value).store = s ∨ ∃ r, e = .store { cause := .refused r, path } := by
  have hsaving := (saving_save memory s path value).1
  rw [h] at hsaving
  cases hsaving with
  | unopened htarget => exact .inl (store_save_of_targetAt_eq_error htarget)
  | unconverted _ hbytes =>
    obtain ⟨b, hb⟩ := hvalue.exists_toBytes_eq_ok memory
    simp [hb] at hbytes
  | refused => exact .inr ⟨_, rfl⟩
  | unmeasured _ _ _ hcount => exact absurd hcount (hvalue.ne_zeros _)

end Failure

theorem store_of_save_eq_error {memory : Nat} {s : Store} {path : String} {value : ByteSource}
    {e : SaveError} (h : (save memory s path value).result = .error e) :
    s.SameTree (save memory s path value).store
      ∧ (∀ loc,
          (save memory s path value).store.lookup? loc ≠ s.lookup? loc →
            ∃ target, s.targetAt path = .ok target ∧ loc = target.loc)
      ∧ (∀ cause, s.targetAt path = .error cause → (save memory s path value).store = s)
      ∧ (∀ loc d,
          s.targetAt path = .ok (.device loc d) →
            (∀ n, d ≠ .setting n) → (save memory s path value).store = s)
      ∧ (∀ loc,
          s.targetAt path = .ok (.file loc) →
            ∃ content,
              (save memory s path value).store.lookup? loc = some (.file content)
                ∧ Spoilt memory s loc value content)
      ∧ (value.IsSequence →
          (save memory s path value).store = s ∨ ∃ r, e = .store { cause := .refused r, path }) := by
  refine ⟨sameTree_save memory s path value, ?_, ?_, ?_, ?_, ?_⟩
  · intro loc hne
    by_contra hnot
    rw [not_exists] at hnot
    apply hne
    apply lookup?_save
    intro target htarget hloc
    exact hnot target ⟨htarget, hloc⟩
  · intro cause htarget
    exact store_save_of_targetAt_eq_error htarget
  · intro loc d htarget hd
    exact store_save_of_device htarget hd
  · intro loc htarget
    exact exists_spoilt_of_save_eq_error h htarget
  · intro hvalue
    exact store_save_of_isSequence h hvalue

-- One path leads through a file, and the other one to a device without space.
theorem store_of_save_eq_error_unopened :
    let s : Store := { home := [], entries := [(["a"], .file [0x36, 0x30]), (["full"], .device .full)] }
    (save 4096 s "a/b" .other).result = .error (.store { cause := .notDirectory, path := "a/b" })
      ∧ (save 4096 s "a/b" .other).store = s
      ∧ (save 4096 s "full" (.octets [some 0x60])).result
          =
        .error (.store { cause := .refused .noSpace, path := "full" })
      ∧ (save 4096 s "full" (.octets [some 0x60])).store = s := by
  intro s
  have hunopened : (save 4096 s "a/b" .other).result
      = .error (.store { cause := .notDirectory, path := "a/b" }) := by decide +kernel
  have hfull : (save 4096 s "full" (.octets [some 0x60])).result
      = .error (.store { cause := .refused .noSpace, path := "full" }) := by decide +kernel
  have htarget : s.targetAt "a/b" = .error .notDirectory := by decide +kernel
  have htarget' : s.targetAt "full" = .ok (.device ["full"] .full) := by decide +kernel
  obtain ⟨-, -, hstore, -⟩ := store_of_save_eq_error hunopened
  obtain ⟨-, -, -, hstore', -⟩ := store_of_save_eq_error hfull
  exact ⟨hunopened, hstore _ htarget, hfull, hstore' _ _ htarget' (by simp)⟩

-- A value that is no byte string empties the file, and a count of zero bytes fails when they are
-- written. A byte string of which a part is refused leaves the other part.
theorem save_eq_error_over_file :
    let s : Store :=
      {
        home := []
        entries := [(["a"], .file [0x36, 0x30, 0x38, 0x30])]
        limits := [(["a"], { room := 5, refusal := .noSpace })]
      }
    s.read "a" = .ok [0x36, 0x30, 0x38, 0x30]
      ∧ (save 4096 s "a" .other).result = .error (.bytes .notBytes)
      ∧ (save 4096 s "a" .other).store.read "a" = .ok []
      ∧ (save 4096 s "a" (.octets [some 256])).result = .error (.bytes .octetRange)
      ∧ (save 4096 s "a" (.octets [some 256])).store.read "a" = .ok []
      ∧ (save 4096 s "a" (.zeros 1)).result = .error .noLength
      ∧ (save 4096 s "a" (.zeros 1)).store.read "a" = .ok [0x30, 0x30]
      ∧ (save 4096 s "a" (.bytes [0x11, 0x22, 0x33])).result
          =
        .error (.store { cause := .refused .noSpace, path := "a" })
      ∧ (save 4096 s "a" (.bytes [0x11, 0x22, 0x33])).store.read "a"
          =
        .ok [0x31, 0x31, 0x32, 0x32, 0x33] := by
  decide +kernel

end CodeFile
end EvmSelectors
