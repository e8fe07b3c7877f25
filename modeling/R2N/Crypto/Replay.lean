import Mathlib.Data.List.Nodup
import R2N.Lib.Run
import R2N.Crypto.Cipher

/-!
# What the replay window remembers

A bit of the window stands for one nonce: bit `i` for `last_nonce - i`.  `ReplayWindow.check_iff`
and the three `advance_testBit` lemmas say this once, in natural numbers; everything below is
about the history of accepted nonces.

**Soundness** needs one inclusion, *accepted nonces are marked* (`Marks`).  A jump past the whole
window leaves stale bits behind — the shift by 64 is a shift by 0 — but a stale bit can only
refuse a nonce, never admit one, so `replay_sound` holds of every sequence of calls.

**Completeness** needs the converse, *marked nonces were accepted* (`Exact`), and that is what a
long jump destroys: `replay_complete_iff` shows that the window accepts every fresh authentic
nonce in range, with every shift below 64, exactly along the sequences in which no authentic
nonce is 64 or more ahead of `last_nonce`.
-/

namespace R2N

open Run

/-! ## One call on the window -/

namespace ReplayWindow

/-- Bit `i` of the bitmap. -/
def marked (win : ReplayWindow) (i : ℕ) : Bool := win.bitmap.toNat.testBit i

lemma toNat_min_sixtyFour (d : UInt64) : (min d 64).toNat = min d.toNat 64 := by
  have h64 : (64 : UInt64).toNat = 64 := rfl
  show (if d ≤ 64 then d else 64).toNat = min d.toNat 64
  split_ifs with h
  · have := UInt64.le_iff_toNat_le.mp h
    omega
  · have := mt UInt64.le_iff_toNat_le.mpr h
    omega

/-- The mask `1 << d` has exactly bit `d`. -/
lemma testBit_one_shl {d : UInt64} (hd : d.toNat < 64) (i : ℕ) :
    ((1 : UInt64) <<< d).toNat.testBit i = decide (i = d.toNat) := by
  rw [UInt64.toNat_shiftLeft, Nat.mod_eq_of_lt hd, Nat.testBit_mod_two_pow,
    Nat.testBit_shiftLeft]
  have h1 : (1 : UInt64).toNat = 2 ^ 0 := rfl
  rw [h1, Nat.testBit_two_pow]
  by_cases h : i = d.toNat
  · subst h; simp [hd]
  · simp only [h, decide_false]
    by_cases hge : i ≥ d.toNat
    · have : ¬ (0 = i - d.toNat) := by omega
      simp [this]
    · simp [hge]

/-- Testing the mask `1 << d` is testing bit `d`. -/
lemma and_one_shl_ne_zero {b d : UInt64} (hd : d.toNat < 64) :
    (b &&& (1 <<< d)) ≠ 0 ↔ b.toNat.testBit d.toNat = true := by
  have hbit : ∀ i, (b &&& (1 <<< d)).toNat.testBit i
      = (b.toNat.testBit i && decide (i = d.toNat)) := by
    intro i
    rw [UInt64.toNat_and, Nat.testBit_and, testBit_one_shl hd]
  constructor
  · intro hne
    by_contra hb
    apply hne
    apply UInt64.toNat_inj.mp
    apply Nat.eq_of_testBit_eq
    intro i
    rw [hbit]
    by_cases hi : i = d.toNat
    · subst hi; simpa using hb
    · simp [hi]
  · intro hb hz
    have := hbit d.toNat
    rw [hz, hb] at this
    simp at this

/-- **`check` in natural numbers**: a nonce passes when it is ahead of the window, or inside it
with its bit clear. -/
theorem check_iff (win : ReplayWindow) (nonce : UInt64) :
    win.check nonce = .ok () ↔ win.lastNonce.toNat < nonce.toNat ∨
      (nonce.toNat ≤ win.lastNonce.toNat ∧ win.lastNonce.toNat - nonce.toNat < 64 ∧
        win.marked (win.lastNonce.toNat - nonce.toNat) = false) := by
  unfold check
  by_cases hle : nonce ≤ win.lastNonce
  · have hn := UInt64.le_iff_toNat_le.mp hle
    have hdiff : (win.lastNonce - nonce).toNat = win.lastNonce.toNat - nonce.toNat :=
      UInt64.toNat_sub_of_le _ _ hle
    have hge : win.lastNonce - nonce ≥ 64 ↔ 64 ≤ win.lastNonce.toNat - nonce.toNat := by
      rw [ge_iff_le, UInt64.le_iff_toNat_le, hdiff]; rfl
    simp only [hle, if_true, hge]
    by_cases hfar : 64 ≤ win.lastNonce.toNat - nonce.toNat
    · simp only [hfar, true_or, if_true]
      constructor
      · intro h; cases h
      · intro h; omega
    · have hand := and_one_shl_ne_zero (b := win.bitmap) (d := win.lastNonce - nonce)
        (by rw [hdiff]; omega)
      rw [hdiff] at hand
      simp only [hfar, false_or, hand, marked]
      cases hb : win.bitmap.toNat.testBit (win.lastNonce.toNat - nonce.toNat)
      · simp; omega
      · simp; omega
  · have hn : win.lastNonce.toNat < nonce.toNat := by
      have := mt UInt64.le_iff_toNat_le.mpr hle; omega
    simp [hle, hn]

lemma advance_lastNonce (win : ReplayWindow) (nonce : UInt64) :
    (win.advance nonce).lastNonce.toNat = max win.lastNonce.toNat nonce.toNat := by
  unfold advance
  by_cases h : nonce > win.lastNonce
  · have hn := UInt64.lt_iff_toNat_lt.mp h
    simp only [h, if_true]; omega
  · have hn : ¬ win.lastNonce.toNat < nonce.toNat := mt UInt64.lt_iff_toNat_lt.mpr h
    simp only [h, if_false]; omega

lemma testBit_shl_or_one {b s : UInt64} {i : ℕ} (hi : i < 64) :
    ((b <<< s) ||| 1).toNat.testBit i
      = ((decide (s.toNat % 64 ≤ i) && b.toNat.testBit (i - s.toNat % 64)) || decide (i = 0)) := by
  rw [UInt64.toNat_or, Nat.testBit_or, UInt64.toNat_shiftLeft, Nat.testBit_mod_two_pow,
    Nat.testBit_shiftLeft]
  have h1 : (1 : UInt64).toNat = 2 ^ 0 := rfl
  rw [h1, Nat.testBit_two_pow]
  simp [hi, eq_comm]

/-- A jump of less than 64 moves every bit by the jump and sets bit 0. -/
lemma advance_marked_short {win : ReplayWindow} {nonce : UInt64}
    (hgt : win.lastNonce.toNat < nonce.toNat)
    (hshort : nonce.toNat - win.lastNonce.toNat < 64) {i : ℕ} (hi : i < 64) :
    (win.advance nonce).marked i = true ↔
      i = 0 ∨ (nonce.toNat - win.lastNonce.toNat ≤ i ∧
        win.marked (i - (nonce.toNat - win.lastNonce.toNat)) = true) := by
  have h : nonce > win.lastNonce := UInt64.lt_iff_toNat_lt.mpr hgt
  have hsub : (nonce - win.lastNonce).toNat = nonce.toNat - win.lastNonce.toNat :=
    UInt64.toNat_sub_of_le _ _ (UInt64.le_iff_toNat_le.mpr (by omega))
  unfold advance marked
  simp only [h, if_true]
  rw [testBit_shl_or_one hi, toNat_min_sixtyFour, hsub, min_eq_left (by omega),
    Nat.mod_eq_of_lt hshort]
  simp only [Bool.or_eq_true, Bool.and_eq_true, decide_eq_true_eq]
  tauto

/-- A jump of 64 or more shifts by 64, which a release build takes as 0: every old bit stays. -/
lemma advance_marked_long {win : ReplayWindow} {nonce : UInt64}
    (hlong : win.lastNonce.toNat + 64 ≤ nonce.toNat) {i : ℕ} (hi : i < 64) :
    (win.advance nonce).marked i = true ↔ i = 0 ∨ win.marked i = true := by
  have h : nonce > win.lastNonce := UInt64.lt_iff_toNat_lt.mpr (by omega)
  have hsub : (nonce - win.lastNonce).toNat = nonce.toNat - win.lastNonce.toNat :=
    UInt64.toNat_sub_of_le _ _ (UInt64.le_iff_toNat_le.mpr (by omega))
  unfold advance marked
  simp only [h, if_true]
  rw [testBit_shl_or_one hi, toNat_min_sixtyFour, hsub, min_eq_right (by omega)]
  simp only [Nat.mod_self, Nat.zero_le, decide_true, Bool.true_and, Nat.sub_zero,
    Bool.or_eq_true, decide_eq_true_eq]
  tauto

/-- A nonce inside the window sets its own bit and no other. -/
lemma advance_marked_inside {win : ReplayWindow} {nonce : UInt64}
    (hle : nonce.toNat ≤ win.lastNonce.toNat)
    (hin : win.lastNonce.toNat - nonce.toNat < 64) (i : ℕ) :
    (win.advance nonce).marked i = true ↔
      i = win.lastNonce.toNat - nonce.toNat ∨ win.marked i = true := by
  have h : ¬ nonce > win.lastNonce := by
    rw [gt_iff_lt, UInt64.lt_iff_toNat_lt]; omega
  have hsub : (win.lastNonce - nonce).toNat = win.lastNonce.toNat - nonce.toNat :=
    UInt64.toNat_sub_of_le _ _ (UInt64.le_iff_toNat_le.mpr hle)
  unfold advance marked
  simp only [h, if_false]
  rw [UInt64.toNat_or, Nat.testBit_or, testBit_one_shl (by rw [hsub]; exact hin), hsub]
  simp only [Bool.or_eq_true, decide_eq_true_eq]
  tauto

end ReplayWindow

/-! ## Sequences of calls -/

/-- One call on a cipher, by either of its two decrypting methods. -/
inductive DecryptCall where
  | decrypt (nonce : UInt64) (ciphertext : Bytes)
  | decryptInPlace (nonce : UInt64) (aad buffer : Bytes)

namespace DecryptCall

def nonce : DecryptCall → UInt64
  | decrypt n _ => n
  | decryptInPlace n _ _ => n

/-- The outcome of the AEAD check alone, the window left aside. -/
def authentic (A : Aead) (key : Key) : DecryptCall → Bool
  | decrypt n ciphertext => (A.decrypt key (nonceBytes n) ciphertext).isSome
  | decryptInPlace n aad buffer =>
      !decide (buffer.length < aeadTagLen) &&
        (A.decryptInPlaceDetached key (nonceBytes n) aad
          (buffer.take (buffer.length - aeadTagLen))
          (buffer.drop (buffer.length - aeadTagLen))).isSome

end DecryptCall

def Cipher.call (A : Aead) (c : Cipher) : DecryptCall → Except CryptoError Bytes × Cipher
  | .decrypt n ciphertext => c.decrypt A n ciphertext
  | .decryptInPlace n aad buffer => c.decryptInPlace A n aad buffer

/-- Everything a call can do: both checks pass and the window advances, or one of them fails and
the cipher is as it was. -/
theorem Cipher.call_cases (A : Aead) (c : Cipher) (x : DecryptCall) :
    (∃ p, c.call A x = (.ok p, { c with window := c.window.advance x.nonce }) ∧
        c.window.check x.nonce = .ok () ∧ x.authentic A c.key = true) ∨
      (∃ e, c.call A x = (.error e, c) ∧
        ¬ (c.window.check x.nonce = .ok () ∧ x.authentic A c.key = true)) := by
  cases x with
  | decrypt n ct =>
      simp only [Cipher.call, Cipher.decrypt, DecryptCall.nonce, DecryptCall.authentic]
      cases hw : c.window.check n with
      | error e => exact Or.inr ⟨e, rfl, by simp⟩
      | ok u =>
          cases hd : A.decrypt c.key (nonceBytes n) ct with
          | none => exact Or.inr ⟨.aead, rfl, by simp⟩
          | some p => exact Or.inl ⟨p, rfl, rfl, rfl⟩
  | decryptInPlace n aad buf =>
      simp only [Cipher.call, Cipher.decryptInPlace, DecryptCall.nonce, DecryptCall.authentic]
      cases hw : c.window.check n with
      | error e => exact Or.inr ⟨e, rfl, by simp⟩
      | ok u =>
          by_cases hlen : buf.length < aeadTagLen
          · exact Or.inr ⟨.aead, by simp [hlen], by simp [hlen]⟩
          · cases hd : A.decryptInPlaceDetached c.key (nonceBytes n) aad
                (buf.take (buf.length - aeadTagLen)) (buf.drop (buf.length - aeadTagLen)) with
            | none => exact Or.inr ⟨.aead, by simp [hlen], by simp⟩
            | some p => exact Or.inl ⟨p, by simp [hlen], rfl, by simp [hlen]⟩

/-- A cipher together with the nonces it has accepted so far, newest first. -/
structure History where
  cipher : Cipher
  accepted : List UInt64

namespace History

def new (key : Key) : History := { cipher := .new key, accepted := [] }

def step (A : Aead) (h : History) (x : DecryptCall) : History :=
  match h.cipher.call A x with
  | (.ok _, c) => { cipher := c, accepted := x.nonce :: h.accepted }
  | (.error _, c) => { h with cipher := c }

/-- The amounts of all shifts a call performs: those of the check, and those of the advance when
the call gets that far. -/
def shifts (A : Aead) (h : History) (x : DecryptCall) : List UInt64 :=
  h.cipher.window.checkShifts x.nonce ++
    if (h.cipher.call A x).1.isOk then h.cipher.window.advanceShifts x.nonce else []

/-- A step in terms of the window: the nonce passed both checks and was recorded, or nothing
happened. -/
theorem step_cases (A : Aead) (h : History) (x : DecryptCall) :
    ((h.cipher.call A x).1.isOk = true ∧ h.cipher.window.check x.nonce = .ok () ∧
        x.authentic A h.cipher.key = true ∧
        h.step A x =
          { cipher := { h.cipher with window := h.cipher.window.advance x.nonce },
            accepted := x.nonce :: h.accepted }) ∨
      ((h.cipher.call A x).1.isOk = false ∧
        ¬ (h.cipher.window.check x.nonce = .ok () ∧ x.authentic A h.cipher.key = true) ∧
        h.step A x = h) := by
  rcases h.cipher.call_cases A x with ⟨p, hcall, hw, ha⟩ | ⟨e, hcall, hno⟩
  · exact Or.inl ⟨by rw [hcall]; rfl, hw, ha, by rw [step, hcall]⟩
  · exact Or.inr ⟨by rw [hcall]; rfl, hno, by rw [step, hcall]⟩

end History

/-! ## Soundness -/

/-- Every accepted nonce lies at or below `last_nonce`, and its bit is set while it is inside the
window. -/
def ReplayWindow.Marks (win : ReplayWindow) (accepted : List UInt64) : Prop :=
  ∀ m ∈ accepted, m.toNat ≤ win.lastNonce.toNat ∧
    (win.lastNonce.toNat - m.toNat < 64 → win.marked (win.lastNonce.toNat - m.toNat) = true)

/-- A nonce that passes the check was not accepted before. -/
lemma ReplayWindow.Marks.notMem_of_check {win : ReplayWindow} {accepted : List UInt64}
    (hm : win.Marks accepted) {nonce : UInt64} (hw : win.check nonce = .ok ()) :
    nonce ∉ accepted := by
  intro hmem
  obtain ⟨hle, hbit⟩ := hm nonce hmem
  rcases (win.check_iff nonce).mp hw with hgt | ⟨-, hin, hclear⟩
  · omega
  · rw [hbit hin] at hclear
    cases hclear

/-- Accepting a nonce keeps every earlier one marked, jumps past the window included: what leaves
the window no longer needs a bit. -/
lemma ReplayWindow.Marks.advance {win : ReplayWindow} {accepted : List UInt64}
    (hm : win.Marks accepted) {nonce : UInt64} (hw : win.check nonce = .ok ()) :
    (win.advance nonce).Marks (nonce :: accepted) := by
  have hlast := win.advance_lastNonce nonce
  rcases (win.check_iff nonce).mp hw with hgt | ⟨hback, hin, -⟩
  · have hmax : (win.advance nonce).lastNonce.toNat = nonce.toNat := by rw [hlast]; omega
    intro m hmem
    rw [hmax]
    rcases List.mem_cons.mp hmem with rfl | hmem
    · refine ⟨le_refl _, fun _ => ?_⟩
      rw [Nat.sub_self]
      by_cases hs : m.toNat - win.lastNonce.toNat < 64
      · exact (advance_marked_short hgt hs (by omega)).mpr (Or.inl rfl)
      · exact (advance_marked_long (by omega) (by omega)).mpr (Or.inl rfl)
    · obtain ⟨hle, hbit⟩ := hm m hmem
      refine ⟨by omega, fun hwin => ?_⟩
      refine (advance_marked_short hgt (by omega) hwin).mpr (Or.inr ⟨by omega, ?_⟩)
      have hsub : nonce.toNat - m.toNat - (nonce.toNat - win.lastNonce.toNat)
          = win.lastNonce.toNat - m.toNat := by omega
      rw [hsub]
      exact hbit (by omega)
  · have hmax : (win.advance nonce).lastNonce.toNat = win.lastNonce.toNat := by
      rw [hlast]; omega
    intro m hmem
    rw [hmax]
    rcases List.mem_cons.mp hmem with rfl | hmem
    · refine ⟨hback, fun _ => ?_⟩
      exact (advance_marked_inside hback hin _).mpr (Or.inl rfl)
    · obtain ⟨hle, hbit⟩ := hm m hmem
      refine ⟨hle, fun hwin => ?_⟩
      exact (advance_marked_inside hback hin _).mpr (Or.inr (hbit hwin))

/-- The soundness invariant of a history. -/
structure History.Sound (h : History) : Prop where
  nodup : h.accepted.Nodup
  marks : h.cipher.window.Marks h.accepted

lemma History.sound_new (key : Key) : (History.new key).Sound where
  nodup := List.nodup_nil
  marks := by intro m hm; simp [History.new] at hm

lemma History.Sound.step {h : History} (hs : h.Sound) (A : Aead) (x : DecryptCall) :
    (h.step A x).Sound := by
  rcases h.step_cases A x with ⟨-, hw, -, heq⟩ | ⟨-, -, heq⟩
  · rw [heq]
    exact ⟨List.nodup_cons.mpr ⟨hs.marks.notMem_of_check hw, hs.nodup⟩, hs.marks.advance hw⟩
  · rw [heq]
    exact hs

/-- **Replay soundness.**  Along every sequence of calls, in any order and with any outcome of
the AEAD check, no nonce is accepted twice, and a call that fails leaves the window alone. -/
theorem replay_sound (A : Aead) (key : Key) (calls : List DecryptCall) :
    (run (History.step A) (History.new key) calls).accepted.Nodup ∧
      Along (History.step A)
        (fun h x => (h.cipher.call A x).1.isOk = false →
          (h.cipher.call A x).2.window = h.cipher.window)
        (History.new key) calls := by
  constructor
  · exact (invariant_forall (I := History.Sound) (fun h x hs => hs.step A x) calls _
      (History.sound_new key)).nodup
  · refine along_of_forall ?_ calls _
    intro h x hfail
    rcases h.cipher.call_cases A x with ⟨p, hcall, -⟩ | ⟨e, hcall, -⟩
    · rw [hcall] at hfail
      cases hfail
    · rw [hcall]

/-! ## Completeness -/

/-- The window after a history without long jumps: `last_nonce` is the highest accepted nonce (or
still 0), and bit `i` is set exactly when `last_nonce - i` was accepted. -/
structure History.Exact (h : History) : Prop where
  le_last : ∀ m ∈ h.accepted, m.toNat ≤ h.cipher.window.lastNonce.toNat
  last_mem : (h.accepted = [] ∧ h.cipher.window.lastNonce = 0) ∨
    h.cipher.window.lastNonce ∈ h.accepted
  marked_iff : ∀ i < 64, h.cipher.window.marked i = true ↔
    ∃ m ∈ h.accepted, m.toNat + i = h.cipher.window.lastNonce.toNat

/-- The condition: an authentic frame is less than 64 nonces ahead of `last_nonce`. -/
def History.NoLongJump (A : Aead) (h : History) (x : DecryptCall) : Prop :=
  x.authentic A h.cipher.key = true →
    x.nonce.toNat < h.cipher.window.lastNonce.toNat + 64

/-- What completeness asks of one call: an authentic frame whose nonce is new and less than 64
below the highest accepted one is accepted, and no shift has an amount of 64 or more. -/
def History.Complete (A : Aead) (h : History) (x : DecryptCall) : Prop :=
  (x.authentic A h.cipher.key = true → x.nonce ∉ h.accepted →
      (∀ m ∈ h.accepted, m.toNat < x.nonce.toNat + 64) → (h.cipher.call A x).1.isOk = true) ∧
    ∀ s ∈ h.shifts A x, s.toNat < 64

instance (A : Aead) (h : History) (x : DecryptCall) : Decidable (h.Complete A x) :=
  -- over the lists, not over all values of the word type
  have : Decidable (∀ m ∈ h.accepted, m.toNat < x.nonce.toNat + 64) := List.decidableBAll _ _
  have : Decidable (∀ s ∈ h.shifts A x, s.toNat < 64) := List.decidableBAll _ _
  inferInstanceAs (Decidable (_ ∧ _))

lemma History.exact_new (key : Key) : (History.new key).Exact where
  le_last := by intro m hm; simp [History.new] at hm
  last_mem := Or.inl ⟨rfl, rfl⟩
  marked_iff := by
    intro i _
    simp [History.new, Cipher.new, ReplayWindow.new, ReplayWindow.marked]

/-- Accepting a nonce ahead of the window by less than 64 keeps the bitmap exact. -/
lemma History.Exact.advance_ahead {h : History} (he : h.Exact) {nonce : UInt64}
    (hgt : h.cipher.window.lastNonce.toNat < nonce.toNat)
    (hshort : nonce.toNat < h.cipher.window.lastNonce.toNat + 64) :
    History.Exact { cipher := { h.cipher with window := h.cipher.window.advance nonce },
                    accepted := nonce :: h.accepted } := by
  have hlast : (h.cipher.window.advance nonce).lastNonce = nonce := by
    apply UInt64.toNat_inj.mp
    rw [ReplayWindow.advance_lastNonce]; omega
  refine ⟨?_, ?_, ?_⟩
  · intro m hm
    simp only [hlast]
    rcases List.mem_cons.mp hm with rfl | hm
    · exact le_refl _
    · have := he.le_last m hm; omega
  · simp only [hlast]
    exact Or.inr List.mem_cons_self
  · intro i hi
    simp only [hlast]
    rw [ReplayWindow.advance_marked_short hgt (by omega) hi]
    constructor
    · rintro (rfl | ⟨hge, hbit⟩)
      · exact ⟨nonce, List.mem_cons_self, by omega⟩
      · obtain ⟨m, hm, hsum⟩ := (he.marked_iff _ (by omega)).mp hbit
        exact ⟨m, List.mem_cons_of_mem _ hm, by omega⟩
    · rintro ⟨m, hm, hsum⟩
      rcases List.mem_cons.mp hm with rfl | hm
      · exact Or.inl (by omega)
      · have hle := he.le_last m hm
        exact Or.inr ⟨by omega, (he.marked_iff _ (by omega)).mpr ⟨m, hm, by omega⟩⟩

/-- Accepting a nonce inside the window keeps the bitmap exact. -/
lemma History.Exact.advance_inside {h : History} (he : h.Exact) {nonce : UInt64}
    (hback : nonce.toNat ≤ h.cipher.window.lastNonce.toNat)
    (hin : h.cipher.window.lastNonce.toNat - nonce.toNat < 64) :
    History.Exact { cipher := { h.cipher with window := h.cipher.window.advance nonce },
                    accepted := nonce :: h.accepted } := by
  have hlast : (h.cipher.window.advance nonce).lastNonce = h.cipher.window.lastNonce := by
    apply UInt64.toNat_inj.mp
    rw [ReplayWindow.advance_lastNonce]; omega
  refine ⟨?_, ?_, ?_⟩
  · intro m hm
    simp only [hlast]
    rcases List.mem_cons.mp hm with rfl | hm
    · exact hback
    · exact he.le_last m hm
  · simp only [hlast]
    rcases he.last_mem with ⟨-, hzero⟩ | hmem
    · have hnonce : nonce = h.cipher.window.lastNonce := by
        apply UInt64.toNat_inj.mp
        rw [hzero] at hback ⊢
        exact Nat.le_zero.mp hback
      exact Or.inr (List.mem_cons.mpr (Or.inl hnonce.symm))
    · exact Or.inr (List.mem_cons_of_mem _ hmem)
  · intro i hi
    simp only [hlast]
    rw [ReplayWindow.advance_marked_inside hback hin]
    constructor
    · rintro (rfl | hbit)
      · exact ⟨nonce, List.mem_cons_self, by omega⟩
      · obtain ⟨m, hm, hsum⟩ := (he.marked_iff _ hi).mp hbit
        exact ⟨m, List.mem_cons_of_mem _ hm, hsum⟩
    · rintro ⟨m, hm, hsum⟩
      rcases List.mem_cons.mp hm with rfl | hm
      · exact Or.inl (by omega)
      · exact Or.inr ((he.marked_iff _ hi).mpr ⟨m, hm, hsum⟩)

lemma History.Exact.step {A : Aead} {h : History} (he : h.Exact) {x : DecryptCall}
    (hj : h.NoLongJump A x) : (h.step A x).Exact := by
  rcases h.step_cases A x with ⟨-, hw, ha, heq⟩ | ⟨-, -, heq⟩
  · rw [heq]
    rcases (ReplayWindow.check_iff _ _).mp hw with hgt | ⟨hback, hin, -⟩
    · exact he.advance_ahead hgt (hj ha)
    · exact he.advance_inside hback hin
  · rw [heq]
    exact he

/-- With an exact bitmap the check refuses nothing but what was accepted or fell out of the
window. -/
lemma History.Exact.check_ok {h : History} (he : h.Exact) {nonce : UInt64}
    (hnew : nonce ∉ h.accepted) (hrange : ∀ m ∈ h.accepted, m.toNat < nonce.toNat + 64) :
    h.cipher.window.check nonce = .ok () := by
  rw [ReplayWindow.check_iff]
  by_cases hgt : h.cipher.window.lastNonce.toNat < nonce.toNat
  · exact Or.inl hgt
  · have hin : h.cipher.window.lastNonce.toNat - nonce.toNat < 64 := by
      rcases he.last_mem with ⟨-, hzero⟩ | hmem
      · rw [hzero]
        show 0 - nonce.toNat < 64
        omega
      · have := hrange _ hmem; omega
    refine Or.inr ⟨by omega, hin, ?_⟩
    by_contra hset
    rw [Bool.not_eq_false] at hset
    obtain ⟨m, hm, hsum⟩ := (he.marked_iff _ hin).mp hset
    have heq : m = nonce := UInt64.toNat_inj.mp (by omega)
    exact hnew (heq ▸ hm)

/-- The check never shifts by 64 or more, whatever the window. -/
lemma ReplayWindow.checkShifts_lt {win : ReplayWindow} {nonce s : UInt64}
    (hs : s ∈ win.checkShifts nonce) : s.toNat < 64 := by
  unfold checkShifts at hs
  by_cases hle : nonce ≤ win.lastNonce
  · by_cases hge : win.lastNonce - nonce ≥ 64
    · simp [hle, hge] at hs
    · simp only [hle, hge, if_true, if_false, List.mem_singleton] at hs
      have h64 : (64 : UInt64).toNat = 64 := rfl
      have := mt UInt64.le_iff_toNat_le.mpr hge
      rw [hs]
      omega
  · simp [hle] at hs

/-- The advance that follows a passed check shifts by less than 64 exactly when the nonce is less
than 64 ahead. -/
lemma ReplayWindow.advanceShifts_lt_iff {win : ReplayWindow} {nonce : UInt64}
    (hw : win.check nonce = .ok ()) :
    (∀ s ∈ win.advanceShifts nonce, s.toNat < 64) ↔ nonce.toNat < win.lastNonce.toNat + 64 := by
  unfold advanceShifts
  by_cases hgt : nonce > win.lastNonce
  · have hlt := UInt64.lt_iff_toNat_lt.mp hgt
    have hsub : (nonce - win.lastNonce).toNat = nonce.toNat - win.lastNonce.toNat :=
      UInt64.toNat_sub_of_le _ _ (UInt64.le_iff_toNat_le.mpr (by omega))
    simp only [hgt, if_true, List.mem_singleton, forall_eq, toNat_min_sixtyFour, hsub]
    omega
  · have hle : nonce.toNat ≤ win.lastNonce.toNat := by
      have := mt UInt64.lt_iff_toNat_lt.mpr hgt; omega
    have hsub : (win.lastNonce - nonce).toNat = win.lastNonce.toNat - nonce.toNat :=
      UInt64.toNat_sub_of_le _ _ (UInt64.le_iff_toNat_le.mpr hle)
    simp only [hgt, if_false, List.mem_singleton, forall_eq, hsub]
    rcases (win.check_iff nonce).mp hw with h | ⟨-, hin, -⟩
    · omega
    · omega

/-- One call with an exact bitmap: completeness needs no more than the absence of a long jump. -/
lemma History.Exact.complete {A : Aead} {h : History} (he : h.Exact) {x : DecryptCall}
    (hj : h.NoLongJump A x) : h.Complete A x := by
  constructor
  · intro ha hnew hrange
    have hw := he.check_ok hnew hrange
    rcases h.step_cases A x with ⟨hok, -⟩ | ⟨-, hno, -⟩
    · exact hok
    · exact absurd ⟨hw, ha⟩ hno
  · intro s hs
    rcases List.mem_append.mp hs with hs | hs
    · exact ReplayWindow.checkShifts_lt hs
    · rcases h.step_cases A x with ⟨hok, hw, ha, -⟩ | ⟨hfail, -⟩
      · rw [if_pos hok] at hs
        exact (ReplayWindow.advanceShifts_lt_iff hw).mpr (hj ha) s hs
      · rw [hfail] at hs
        simp at hs

/-- Conversely a long jump always shifts by 64: nonces ahead of the window pass the check. -/
lemma History.Complete.noLongJump {A : Aead} {h : History} {x : DecryptCall}
    (hc : h.Complete A x) : h.NoLongJump A x := by
  intro ha
  by_contra hfar
  have hw : h.cipher.window.check x.nonce = .ok () :=
    (ReplayWindow.check_iff _ _).mpr (Or.inl (by omega))
  rcases h.step_cases A x with ⟨hok, -⟩ | ⟨-, hno, -⟩
  · refine hfar ((ReplayWindow.advanceShifts_lt_iff hw).mp fun s hs => ?_)
    exact hc.2 s (List.mem_append.mpr (Or.inr (by rw [if_pos hok]; exact hs)))
  · exact hno ⟨hw, ha⟩

/-- **Replay completeness, and exactly when it holds.**  Along a sequence of calls every fresh
authentic nonce in range is accepted and every shift stays below 64 if and only if no authentic
frame of the sequence is 64 or more nonces ahead of `last_nonce` when it arrives. -/
theorem replay_complete_iff (A : Aead) (key : Key) (calls : List DecryptCall) :
    Along (History.step A) (History.Complete A) (History.new key) calls ↔
      Along (History.step A) (History.NoLongJump A) (History.new key) calls := by
  constructor
  · exact Along.mono fun _ _ hc => hc.noLongJump
  · exact Along.mono_of_invariant (I := History.Exact) (fun _ _ he hj => he.step hj)
      (fun _ _ he hj => he.complete hj) calls _ (History.exact_new key)

/-- An authentic frame under `Aead.transparent`: a payload-free buffer that is only a tag. -/
def tagOnlyCall (nonce : UInt64) : DecryptCall :=
  .decryptInPlace nonce [] (List.replicate aeadTagLen 0)

/-- Frames 1 and 2 arrive, 3 to 65 are delayed, 66 arrives: the bitmap keeps the bit of frame 1 at
the place of frame 65, and frame 65, authentic, new and one below the highest, is refused. -/
theorem replay_complete_fails_after_jump :
    ¬ Along (History.step Aead.transparent) (History.Complete Aead.transparent)
      (History.new (ByteArr.fill 32 7)) [tagOnlyCall 1, tagOnlyCall 2, tagOnlyCall 66,
        tagOnlyCall 65] := by
  decide

end R2N
