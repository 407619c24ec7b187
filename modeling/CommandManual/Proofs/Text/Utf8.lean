import CommandManual.Text.Utf8

/-!
# What is decoded is what was encoded

The reader of UTF-8 keeps a character in progress as a number and a count of bytes that are still
owed. What makes it right is one property of that state, `Pending.Sound`: whatever continuation
bytes come next, the character that they complete is encoded by the bytes read so far and by them.
The bounds that a first byte sets on the second one are what keeps long forms, surrogates and
numbers above the last code point out, and only `lead_begins` looks at them.

The other way round, every character is read from its bytes, and so is every text. Bytes that are
not those of a text are refused behind the longest text that they begin with.

## Main definitions

* `Utf8.BreaksAt`: bytes are a text up to an offset, and no character begins there.

## Main results

* `Utf8.encode_of_decode`: bytes that can be decoded are the encoding of their text.
* `Utf8.encode_injective`: a text is determined by its bytes.
* `Utf8.decode_encode`: a text is read from its bytes.
* `Utf8.breaksAt_iff`: bytes are refused where they break.
-/

namespace CommandManual

namespace Utf8

/-- The bytes that continue a character. -/
def IsTail (b : UInt8) : Prop := 0x80 ≤ b ∧ b ≤ 0xBF

/-- The number that bytes spell behind those that are read already. -/
def continued (value : Nat) (bs : List UInt8) : Nat :=
  bs.foldl (fun v b => v * 64 + b.toNat % 64) value

/-- Whatever continuation bytes come next, the character that they complete is encoded by the bytes
read so far and by them. -/
structure Pending.Sound (p : Pending) : Prop where
  owed_pos : 0 < p.owed
  low_le : 0x80 ≤ p.low
  high_le : p.high ≤ 0xBF
  encodes : ∀ b bs, p.low ≤ b → b ≤ p.high → (∀ c ∈ bs, IsTail c) → bs.length + 1 = p.owed →
    String.utf8EncodeChar (Char.ofNat (continued p.value (b :: bs))) = p.taken.reverse ++ b :: bs

/-- A byte that may come next keeps the state sound. -/
theorem Pending.Sound.next {p : Pending} (h : p.Sound) {b : UInt8} (hl : p.low ≤ b)
    (hh : b ≤ p.high) (ho : 1 < p.owed) :
    Pending.Sound ⟨b :: p.taken, p.value * 64 + b.toNat % 64, p.owed - 1, 0x80, 0xBF⟩ where
  owed_pos := Nat.sub_pos_of_lt ho
  low_le := UInt8.le_refl _
  high_le := UInt8.le_refl _
  encodes := by
    intro c cs hcl hch hcs hlen
    have htail : ∀ d ∈ c :: cs, IsTail d := by
      intro d hd
      rcases List.mem_cons.1 hd with rfl | hd
      · exact ⟨hcl, hch⟩
      · exact hcs d hd
    have howed : (c :: cs).length + 1 = p.owed := by
      rw [List.length_cons, hlen]
      exact Nat.sub_add_cancel h.owed_pos
    have h' := h.encodes b (c :: cs) hl hh htail howed
    simpa [continued] using h'

/-! ### The first byte -/

theorem toNat_ofNat {n : Nat} (h : n.isValidChar) : (Char.ofNat n).val.toNat = n := by
  rw [Char.ofNat, dif_pos h]
  rfl

theorem lead_whole {b : UInt8} {c : Char} (h : lead b = .whole c) :
    String.utf8EncodeChar c = [b] := by
  unfold lead at h
  split at h
  · next hb =>
    have hb : b.toNat < 128 := UInt8.lt_iff_toNat_lt.1 hb
    obtain rfl := Lead.whole.inj h
    have hv : b.toNat.isValidChar := .inl (by omega)
    rw [String.utf8EncodeChar, toNat_ofNat hv, if_pos (by omega), UInt8.ofNat_toNat]
  all_goals (repeat' split at h) <;> simp at h

/-- The encoding of a number in two bytes. -/
theorem encode_two {n : Nat} {b c : UInt8} (hlo : 0x7F < n) (hhi : n ≤ 0x7FF)
    (hb : n / 64 % 32 + 0xC0 = b.toNat) (hc : n % 64 + 0x80 = c.toNat) :
    String.utf8EncodeChar (Char.ofNat n) = [b, c] := by
  have hv : n.isValidChar := .inl (by omega)
  rw [String.utf8EncodeChar, toNat_ofNat hv]
  simp only [if_neg (show ¬ n ≤ 0x7F by omega), if_pos hhi, hb, hc, UInt8.ofNat_toNat]

/-- The encoding of a number in three bytes. -/
theorem encode_three {n : Nat} {b c d : UInt8} (hv : n.isValidChar) (hlo : 0x7FF < n)
    (hhi : n ≤ 0xFFFF) (hb : n / 4096 % 16 + 0xE0 = b.toNat) (hc : n / 64 % 64 + 0x80 = c.toNat)
    (hd : n % 64 + 0x80 = d.toNat) : String.utf8EncodeChar (Char.ofNat n) = [b, c, d] := by
  rw [String.utf8EncodeChar, toNat_ofNat hv]
  simp only [if_neg (show ¬ n ≤ 0x7F by omega), if_neg (show ¬ n ≤ 0x7FF by omega), if_pos hhi, hb,
    hc, hd, UInt8.ofNat_toNat]

/-- The encoding of a number in four bytes. -/
theorem encode_four {n : Nat} {b c d e : UInt8} (hlo : 0xFFFF < n) (hhi : n < 0x110000)
    (hb : n / 262144 % 8 + 0xF0 = b.toNat) (hc : n / 4096 % 64 + 0x80 = c.toNat)
    (hd : n / 64 % 64 + 0x80 = d.toNat) (he : n % 64 + 0x80 = e.toNat) :
    String.utf8EncodeChar (Char.ofNat n) = [b, c, d, e] := by
  have hv : n.isValidChar := .inr ⟨by omega, hhi⟩
  rw [String.utf8EncodeChar, toNat_ofNat hv]
  simp only [if_neg (show ¬ n ≤ 0x7F by omega), if_neg (show ¬ n ≤ 0x7FF by omega),
    if_neg (show ¬ n ≤ 0xFFFF by omega), hb, hc, hd, he, UInt8.ofNat_toNat]

theorem sound_of_two {b : UInt8} (hlo : 0xC2 ≤ b.toNat) (hhi : b.toNat < 0xE0) :
    Pending.Sound ⟨[b], b.toNat % 32, 1, 0x80, 0xBF⟩ where
  owed_pos := Nat.one_pos
  low_le := UInt8.le_refl _
  high_le := UInt8.le_refl _
  encodes := by
    intro c cs hcl hch _ hlen
    obtain rfl := List.eq_nil_of_length_eq_zero (Nat.succ.inj hlen)
    have hcl : 0x80 ≤ c.toNat := UInt8.le_iff_toNat_le.1 hcl
    have hch : c.toNat ≤ 0xBF := UInt8.le_iff_toNat_le.1 hch
    change String.utf8EncodeChar (Char.ofNat (b.toNat % 32 * 64 + c.toNat % 64)) = [b, c]
    exact encode_two (by omega) (by omega) (by omega) (by omega)

theorem sound_of_three {b : UInt8} (hlo : 0xE0 ≤ b.toNat) (hhi : b.toNat < 0xF0) :
    Pending.Sound ⟨[b], b.toNat % 16, 2, if b = 0xE0 then 0xA0 else 0x80,
      if b = 0xED then 0x9F else 0xBF⟩ where
  owed_pos := Nat.two_pos
  low_le := by change 0x80 ≤ (if b = 0xE0 then 0xA0 else 0x80 : UInt8); split <;> decide
  high_le := by change (if b = 0xED then 0x9F else 0xBF : UInt8) ≤ 0xBF; split <;> decide
  encodes := by
    intro c cs hcl hch hcs hlen
    obtain ⟨d, rfl⟩ := List.length_eq_one_iff.1 (Nat.succ.inj hlen)
    obtain ⟨hdl, hdh⟩ := hcs d (List.mem_singleton_self d)
    have hdl : 0x80 ≤ d.toNat := UInt8.le_iff_toNat_le.1 hdl
    have hdh : d.toNat ≤ 0xBF := UInt8.le_iff_toNat_le.1 hdh
    have hcl : (if b = 0xE0 then 0xA0 else 0x80 : UInt8).toNat ≤ c.toNat :=
      UInt8.le_iff_toNat_le.1 hcl
    have hch : c.toNat ≤ (if b = 0xED then 0x9F else 0xBF : UInt8).toNat :=
      UInt8.le_iff_toNat_le.1 hch
    simp only [apply_ite UInt8.toNat, ← UInt8.toNat_inj, UInt8.reduceToNat] at hcl hch
    let n := (b.toNat % 16 * 64 + c.toNat % 64) * 64 + d.toNat % 64
    -- the edges of the second byte are what makes the number long enough, and no surrogate
    obtain ⟨hc, hlong, hv⟩ :
        (0x80 ≤ c.toNat ∧ c.toNat ≤ 0xBF) ∧ 0x7FF < n ∧ (n < 0xD800 ∨ 0xDFFF < n) := by
      split at hcl <;> split at hch <;> omega
    change String.utf8EncodeChar (Char.ofNat n) = [b, c, d]
    refine encode_three ?_ hlong (by omega) (by omega) (by omega) (by omega)
    exact hv.imp id fun h => ⟨h, by omega⟩

theorem sound_of_four {b : UInt8} (hlo : 0xF0 ≤ b.toNat) (hhi : b.toNat < 0xF5) :
    Pending.Sound ⟨[b], b.toNat % 8, 3, if b = 0xF0 then 0x90 else 0x80,
      if b = 0xF4 then 0x8F else 0xBF⟩ where
  owed_pos := Nat.succ_pos 2
  low_le := by change 0x80 ≤ (if b = 0xF0 then 0x90 else 0x80 : UInt8); split <;> decide
  high_le := by change (if b = 0xF4 then 0x8F else 0xBF : UInt8) ≤ 0xBF; split <;> decide
  encodes := by
    intro c cs hcl hch hcs hlen
    obtain ⟨d, e, rfl⟩ : ∃ d e, cs = [d, e] := by
      match cs, hlen with
      | [d, e], _ => exact ⟨d, e, rfl⟩
    obtain ⟨hdl, hdh⟩ := hcs d (by simp)
    obtain ⟨hel, heh⟩ := hcs e (by simp)
    have hdl : 0x80 ≤ d.toNat := UInt8.le_iff_toNat_le.1 hdl
    have hdh : d.toNat ≤ 0xBF := UInt8.le_iff_toNat_le.1 hdh
    have hel : 0x80 ≤ e.toNat := UInt8.le_iff_toNat_le.1 hel
    have heh : e.toNat ≤ 0xBF := UInt8.le_iff_toNat_le.1 heh
    have hcl : (if b = 0xF0 then 0x90 else 0x80 : UInt8).toNat ≤ c.toNat :=
      UInt8.le_iff_toNat_le.1 hcl
    have hch : c.toNat ≤ (if b = 0xF4 then 0x8F else 0xBF : UInt8).toNat :=
      UInt8.le_iff_toNat_le.1 hch
    simp only [apply_ite UInt8.toNat, ← UInt8.toNat_inj, UInt8.reduceToNat] at hcl hch
    let n := ((b.toNat % 8 * 64 + c.toNat % 64) * 64 + d.toNat % 64) * 64 + e.toNat % 64
    obtain ⟨hc, hlong, hshort⟩ :
        (0x80 ≤ c.toNat ∧ c.toNat ≤ 0xBF) ∧ 0xFFFF < n ∧ n < 0x110000 := by
      split at hcl <;> split at hch <;> omega
    change String.utf8EncodeChar (Char.ofNat n) = [b, c, d, e]
    exact encode_four hlong hshort (by omega) (by omega) (by omega) (by omega)

/-- A character that a first byte begins is sound, and that byte is all that is read of it. -/
theorem lead_begins {b : UInt8} {p : Pending} (h : lead b = .begins p) :
    p.Sound ∧ p.taken = [b] := by
  unfold lead at h
  split at h
  · simp at h
  · split at h
    · simp at h
    · next hlo =>
      have hlo : 0xC2 ≤ b.toNat := Nat.le_of_not_lt fun hb => hlo (UInt8.lt_iff_toNat_lt.2 hb)
      split at h
      · next hhi =>
        obtain rfl := Lead.begins.inj h
        exact ⟨sound_of_two hlo (UInt8.lt_iff_toNat_lt.1 hhi), rfl⟩
      · next hlo =>
        have hlo : 0xE0 ≤ b.toNat := Nat.le_of_not_lt fun hb => hlo (UInt8.lt_iff_toNat_lt.2 hb)
        split at h
        · next hhi =>
          obtain rfl := Lead.begins.inj h
          exact ⟨sound_of_three hlo (UInt8.lt_iff_toNat_lt.1 hhi), rfl⟩
        · next hlo =>
          have hlo : 0xF0 ≤ b.toNat := Nat.le_of_not_lt fun hb => hlo (UInt8.lt_iff_toNat_lt.2 hb)
          split at h
          · next hhi =>
            obtain rfl := Lead.begins.inj h
            exact ⟨sound_of_four hlo (UInt8.lt_iff_toNat_lt.1 hhi), rfl⟩
          · simp at h

/-! ### The whole text -/

/-- What the reader has done and what is ahead of it make up the bytes of the text. -/
theorem encode_of_decodeFrom {position : Nat} {held : Option Pending} {done t : Text}
    {bs : List UInt8} (hs : ∀ p ∈ held, p.Sound) (h : decodeFrom position held done bs = .ok t) :
    encode t = encode done.reverse ++ (held.elim [] fun p => p.taken.reverse) ++ bs := by
  induction bs generalizing position held done with
  | nil =>
    cases held with
    | none =>
      rw [decodeFrom] at h
      obtain rfl := Except.ok.inj h
      simp
    | some p => simp [decodeFrom] at h
  | cons b bs ih =>
    cases held with
    | none =>
      rw [decodeFrom] at h
      cases hl : lead b with
      | whole c =>
        rw [hl] at h
        rw [ih (by simp) h]
        simp [encode, lead_whole hl]
      | begins p =>
        rw [hl] at h
        obtain ⟨hp, ht⟩ := lead_begins hl
        rw [ih (by simpa using hp) h]
        simp [ht]
      | invalid => simp [hl] at h
    | some p =>
      have hp := hs p rfl
      rw [decodeFrom] at h
      split at h
      · next hb =>
        obtain ⟨hlow, hhigh⟩ : p.low ≤ b ∧ b ≤ p.high := by simpa using hb
        split at h
        · next ho =>
          have hone : p.owed = 1 := Nat.le_antisymm ho hp.owed_pos
          have hc := hp.encodes b [] hlow hhigh (by simp) hone.symm
          rw [ih (by simp) h]
          simp only [continued, List.foldl_cons, List.foldl_nil] at hc
          simp [encode, hc]
        · next ho =>
          rw [ih (by simpa using hp.next hlow hhigh (Nat.lt_of_not_le ho)) h]
          simp
      · simp at h

/-- **Bytes that can be decoded are the encoding of their text.** -/
theorem encode_of_decode {bs : List UInt8} {t : Text} (h : decode bs = .ok t) : encode t = bs := by
  have hnone : ∀ p ∈ (none : Option Pending), p.Sound := by simp
  simpa using encode_of_decodeFrom hnone h

/-- **A text is determined by its bytes.** -/
theorem encode_injective {s t : Text} (h : encode s = encode t) : s = t := by
  have hb : (String.ofList s).toByteArray = (String.ofList t).toByteArray :=
    congrArg List.toByteArray h
  exact String.ofList_injective (String.toByteArray_inj.1 hb)

/-! ### Texts that were encoded -/

section

variable {position : Nat} {done : Text} {bs : List UInt8}

theorem lead_of_lt {b : UInt8} (h : b.toNat < 0x80) : lead b = .whole (Char.ofNat b.toNat) :=
  if_pos (UInt8.lt_iff_toNat_lt.2 h)

theorem lead_of_two {b : UInt8} (hlo : 0xC2 ≤ b.toNat) (hhi : b.toNat < 0xE0) :
    lead b = .begins ⟨[b], b.toNat % 32, 1, 0x80, 0xBF⟩ := by
  simp only [lead, UInt8.lt_iff_toNat_lt, UInt8.reduceToNat]
  rw [if_neg (by omega), if_neg (by omega), if_pos hhi]

theorem lead_of_three {b : UInt8} (hlo : 0xE0 ≤ b.toNat) (hhi : b.toNat < 0xF0) :
    lead b = .begins ⟨[b], b.toNat % 16, 2, if b = 0xE0 then 0xA0 else 0x80,
      if b = 0xED then 0x9F else 0xBF⟩ := by
  simp only [lead, UInt8.lt_iff_toNat_lt, UInt8.reduceToNat]
  rw [if_neg (by omega), if_neg (by omega), if_neg (by omega), if_pos hhi]

theorem lead_of_four {b : UInt8} (hlo : 0xF0 ≤ b.toNat) (hhi : b.toNat < 0xF5) :
    lead b = .begins ⟨[b], b.toNat % 8, 3, if b = 0xF0 then 0x90 else 0x80,
      if b = 0xF4 then 0x8F else 0xBF⟩ := by
  simp only [lead, UInt8.lt_iff_toNat_lt, UInt8.reduceToNat]
  rw [if_neg (by omega), if_neg (by omega), if_neg (by omega), if_neg (by omega), if_pos hhi]

theorem decodeFrom_whole {b : UInt8} {c : Char} (h : lead b = .whole c) :
    decodeFrom position none done (b :: bs) = decodeFrom (position + 1) none (c :: done) bs := by
  rw [decodeFrom, h]

theorem decodeFrom_begins {b : UInt8} {p : Pending} (h : lead b = .begins p) :
    decodeFrom position none done (b :: bs) = decodeFrom (position + 1) (some p) done bs := by
  rw [decodeFrom, h]

theorem decodeFrom_last {b : UInt8} {p : Pending} (hlow : p.low ≤ b) (hhigh : b ≤ p.high)
    (howed : p.owed = 1) :
    decodeFrom position (some p) done (b :: bs) =
      decodeFrom (position + 1) none (Char.ofNat (p.value * 64 + b.toNat % 64) :: done) bs := by
  rw [decodeFrom, if_pos (by simp [hlow, hhigh]), if_pos (Nat.le_of_eq howed)]

theorem decodeFrom_next {b : UInt8} {p : Pending} (hlow : p.low ≤ b) (hhigh : b ≤ p.high)
    (howed : 1 < p.owed) :
    decodeFrom position (some p) done (b :: bs) = decodeFrom (position + 1)
      (some ⟨b :: p.taken, p.value * 64 + b.toNat % 64, p.owed - 1, 0x80, 0xBF⟩) done bs := by
  rw [decodeFrom, if_pos (by simp [hlow, hhigh]), if_neg (Nat.not_le_of_lt howed)]

/-- A byte that continues a character. -/
theorem isTail_of_toNat {n : Nat} {b : UInt8} (hb : b.toNat = n % 64 + 0x80) : IsTail b := by
  simp only [IsTail, UInt8.le_iff_toNat_le, UInt8.reduceToNat]
  omega

theorem decodeFrom_two {n : Nat} {b c : UInt8} (hlo : 0x7F < n) (hhi : n ≤ 0x7FF)
    (hb : b.toNat = n / 64 % 32 + 0xC0) (hc : c.toNat = n % 64 + 0x80) :
    decodeFrom position none done (b :: c :: bs) =
      decodeFrom (position + 2) none (Char.ofNat n :: done) bs := by
  obtain ⟨hcl, hch⟩ := isTail_of_toNat hc
  have hvalue : b.toNat % 32 * 64 + c.toNat % 64 = n := by omega
  rw [decodeFrom_begins (lead_of_two (by omega) (by omega)), decodeFrom_last hcl hch rfl, hvalue]

theorem decodeFrom_three {n : Nat} {b c d : UInt8} (hv : n.isValidChar) (hlo : 0x7FF < n)
    (hhi : n ≤ 0xFFFF) (hb : b.toNat = n / 4096 % 16 + 0xE0) (hc : c.toNat = n / 64 % 64 + 0x80)
    (hd : d.toNat = n % 64 + 0x80) :
    decodeFrom position none done (b :: c :: d :: bs) =
      decodeFrom (position + 3) none (Char.ofNat n :: done) bs := by
  obtain ⟨hdl, hdh⟩ := isTail_of_toNat hd
  have hvalue : (b.toNat % 16 * 64 + c.toNat % 64) * 64 + d.toNat % 64 = n := by omega
  -- the number is long enough for three bytes, and it is no surrogate
  have hcl : (if b = 0xE0 then 0xA0 else 0x80 : UInt8) ≤ c := by
    simp only [UInt8.le_iff_toNat_le, apply_ite UInt8.toNat, ← UInt8.toNat_inj, UInt8.reduceToNat]
    split <;> omega
  have hch : c ≤ (if b = 0xED then 0x9F else 0xBF : UInt8) := by
    simp only [UInt8.le_iff_toNat_le, apply_ite UInt8.toNat, ← UInt8.toNat_inj, UInt8.reduceToNat]
    rcases hv with hv | ⟨hv, -⟩
    · split <;> omega
    · split <;> omega
  rw [decodeFrom_begins (lead_of_three (by omega) (by omega)), decodeFrom_next hcl hch Nat.one_lt_two,
    decodeFrom_last hdl hdh rfl, hvalue]

theorem decodeFrom_four {n : Nat} {b c d e : UInt8} (hlo : 0xFFFF < n) (hhi : n < 0x110000)
    (hb : b.toNat = n / 262144 % 8 + 0xF0) (hc : c.toNat = n / 4096 % 64 + 0x80)
    (hd : d.toNat = n / 64 % 64 + 0x80) (he : e.toNat = n % 64 + 0x80) :
    decodeFrom position none done (b :: c :: d :: e :: bs) =
      decodeFrom (position + 4) none (Char.ofNat n :: done) bs := by
  obtain ⟨hdl, hdh⟩ := isTail_of_toNat hd
  obtain ⟨hel, heh⟩ := isTail_of_toNat he
  have hvalue : ((b.toNat % 8 * 64 + c.toNat % 64) * 64 + d.toNat % 64) * 64 + e.toNat % 64 = n := by
    omega
  have hcl : (if b = 0xF0 then 0x90 else 0x80 : UInt8) ≤ c := by
    simp only [UInt8.le_iff_toNat_le, apply_ite UInt8.toNat, ← UInt8.toNat_inj, UInt8.reduceToNat]
    split <;> omega
  have hch : c ≤ (if b = 0xF4 then 0x8F else 0xBF : UInt8) := by
    simp only [UInt8.le_iff_toNat_le, apply_ite UInt8.toNat, ← UInt8.toNat_inj, UInt8.reduceToNat]
    split <;> omega
  rw [decodeFrom_begins (lead_of_four (by omega) (by omega)), decodeFrom_next hcl hch (show 1 < 3 by decide),
    decodeFrom_next hdl hdh Nat.one_lt_two, decodeFrom_last hel heh rfl, hvalue]

/-- **A character is read from its bytes.** -/
theorem decodeFrom_utf8EncodeChar (c : Char) (position : Nat) (done : Text) (bs : List UInt8) :
    decodeFrom position none done (String.utf8EncodeChar c ++ bs) =
      decodeFrom (position + (String.utf8EncodeChar c).length) none (c :: done) bs := by
  obtain ⟨n, hv, rfl⟩ : ∃ n, n.isValidChar ∧ Char.ofNat n = c := ⟨c.toNat, c.valid, c.ofNat_toNat⟩
  have hbyte {m : Nat} (hm : m < 256) : (UInt8.ofNat m).toNat = m := UInt8.toNat_ofNat_of_lt' hm
  have hlimit : n < 0x110000 := by
    rcases hv with hv | ⟨-, hv⟩ <;> omega
  unfold String.utf8EncodeChar
  simp only [toNat_ofNat hv]
  split
  · next hone =>
    have hb := hbyte (m := n) (by omega)
    have hlead := lead_of_lt (b := UInt8.ofNat n) (by omega)
    rw [hb] at hlead
    exact decodeFrom_whole hlead
  · next hone =>
    split
    · next htwo => exact decodeFrom_two (by omega) htwo (hbyte (by omega)) (hbyte (by omega))
    · next htwo =>
      split
      · next hthree =>
        exact decodeFrom_three hv (by omega) hthree (hbyte (by omega)) (hbyte (by omega))
          (hbyte (by omega))
      · next hthree =>
        exact decodeFrom_four (by omega) hlimit (hbyte (by omega)) (hbyte (by omega))
          (hbyte (by omega)) (hbyte (by omega))

/-- A text is read from its bytes, whatever comes behind them. -/
theorem decodeFrom_encode_append (t : Text) (position : Nat) (done : Text) (bs : List UInt8) :
    decodeFrom position none done (encode t ++ bs) =
      decodeFrom (position + (encode t).length) none (t.reverse ++ done) bs := by
  induction t generalizing position done with
  | nil => rfl
  | cons c t ih =>
    have hencode : encode (c :: t) = String.utf8EncodeChar c ++ encode t := List.flatMap_cons
    rw [hencode, List.append_assoc, decodeFrom_utf8EncodeChar, ih, List.length_append,
      Nat.add_assoc, List.reverse_cons, List.append_assoc]
    rfl

/-- **What was encoded is decoded.** -/
@[simp] theorem decode_encode (t : Text) : decode (encode t) = .ok t := by
  have h := decodeFrom_encode_append t 0 [] []
  rw [List.append_nil, decodeFrom, List.append_nil, List.reverse_reverse] at h
  exact h

end

/-! ### Where bytes break -/

/-- In front of an offset the bytes are those of a text, and none or more follow of which no
character begins. -/
def BreaksAt (bs : List UInt8) (n : Nat) : Prop :=
  ∃ t rest, bs = encode t ++ rest ∧ (encode t).length = n ∧ rest ≠ [] ∧
    ∀ c, ¬ String.utf8EncodeChar c <+: rest

/-- A character in progress is completed, or the reader stops where it began. -/
theorem decodeFrom_pending {p : Pending} (h : p.Sound) (position : Nat) (done : Text)
    (bs : List UInt8) :
    (∃ f, decodeFrom position (some p) done bs = .error f ∧
        f.position = position - p.taken.length) ∨
      ∃ c rest, p.taken.reverse ++ bs = String.utf8EncodeChar c ++ rest := by
  induction bs generalizing p position with
  | nil => exact .inl ⟨_, rfl, rfl⟩
  | cons b bs ih =>
    rw [decodeFrom]
    split
    · next hb =>
      obtain ⟨hlow, hhigh⟩ : p.low ≤ b ∧ b ≤ p.high := by simpa using hb
      split
      · next ho =>
        have hone : p.owed = 1 := Nat.le_antisymm ho h.owed_pos
        have hc := h.encodes b [] hlow hhigh (by simp) hone.symm
        exact .inr ⟨_, bs, by rw [hc, List.append_assoc]; rfl⟩
      · next ho =>
        rcases ih (h.next hlow hhigh (Nat.lt_of_not_le ho)) (position + 1) with
          ⟨f, hf, hposition⟩ | ⟨c, rest, hc⟩
        · exact .inl ⟨f, hf, by rw [hposition, List.length_cons, Nat.add_sub_add_right]⟩
        · refine .inr ⟨c, rest, ?_⟩
          rw [← hc, List.reverse_cons, List.append_assoc]
          rfl
    · exact .inl ⟨_, rfl, rfl⟩

/-- Bytes begin with a character, or the reader stops at the first of them. -/
theorem decodeFrom_cases (position : Nat) (done : Text) (b : UInt8) (bs : List UInt8) :
    (∃ f, decodeFrom position none done (b :: bs) = .error f ∧ f.position = position) ∨
      ∃ c rest, b :: bs = String.utf8EncodeChar c ++ rest := by
  cases hl : lead b with
  | whole c => exact .inr ⟨c, bs, by rw [lead_whole hl]; rfl⟩
  | begins p =>
    obtain ⟨hp, ht⟩ := lead_begins hl
    rw [decodeFrom_begins hl]
    rcases decodeFrom_pending hp (position + 1) done bs with ⟨f, hf, hposition⟩ | ⟨c, rest, hc⟩
    · exact .inl ⟨f, hf, by rw [hposition, ht]; rfl⟩
    · exact .inr ⟨c, rest, by rw [← hc, ht]; rfl⟩
  | invalid => exact .inl ⟨_, by rw [decodeFrom, hl], rfl⟩

/-- Where the reader stops, no character begins. -/
theorem breaksAt_of_decodeFrom {position : Nat} {done : Text} {bs : List UInt8} {f : Fault}
    (h : decodeFrom position none done bs = .error f) :
    ∃ t rest, bs = encode t ++ rest ∧ f.position = position + (encode t).length ∧ rest ≠ [] ∧
      ∀ c, ¬ String.utf8EncodeChar c <+: rest := by
  induction hn : bs.length using Nat.strongRecOn generalizing position done bs with
  | ind n ih =>
    cases bs with
    | nil => cases h
    | cons b bs =>
      by_cases hc : ∃ c rest, b :: bs = String.utf8EncodeChar c ++ rest
      · obtain ⟨c, rest, hc⟩ := hc
        rw [hc, decodeFrom_utf8EncodeChar] at h
        have hshorter : rest.length < n := by
          rw [← hn, hc, List.length_append, String.length_utf8EncodeChar]
          have hpos := c.utf8Size_pos
          omega
        obtain ⟨t, broken, rfl, hposition, hne, hno⟩ := ih _ hshorter h rfl
        refine ⟨c :: t, broken, ?_, ?_, hne, hno⟩
        · rw [hc, ← List.append_assoc]
          rfl
        · rw [hposition, Nat.add_assoc, ← List.length_append]
          rfl
      · refine ⟨[], b :: bs, rfl, ?_, List.cons_ne_nil b bs, fun c hprefix => ?_⟩
        · rcases decodeFrom_cases position done b bs with ⟨g, hg, hposition⟩ | hbegins
          · rw [Except.error.inj (h.symm.trans hg), hposition]
            rfl
          · exact absurd hbegins hc
        · obtain ⟨rest, hrest⟩ := hprefix
          exact hc ⟨c, rest, hrest.symm⟩

/-- **Bytes are refused where they break.** -/
theorem breaksAt_iff {bs : List UInt8} {n : Nat} :
    BreaksAt bs n ↔ ∃ f, decode bs = .error f ∧ f.position = n := by
  constructor
  · rintro ⟨t, rest, rfl, rfl, hne, hno⟩
    obtain ⟨b, rest, rfl⟩ := List.exists_cons_of_ne_nil hne
    rw [decode, decodeFrom_encode_append, Nat.zero_add]
    rcases decodeFrom_cases (encode t).length (t.reverse ++ []) b rest with hf | ⟨c, after, hc⟩
    · exact hf
    · exact absurd ⟨after, hc.symm⟩ (hno c)
  · rintro ⟨f, hf, rfl⟩
    obtain ⟨t, rest, hbs, hposition, hbroken⟩ := breaksAt_of_decodeFrom hf
    exact ⟨t, rest, hbs, by rw [hposition, Nat.zero_add], hbroken⟩

/-- Bytes that break are those of no text. -/
theorem BreaksAt.encode_ne {bs : List UInt8} {n : Nat} (h : BreaksAt bs n) (t : Text) :
    encode t ≠ bs := by
  rintro rfl
  obtain ⟨f, hf, -⟩ := breaksAt_iff.1 h
  rw [decode_encode] at hf
  cases hf

end Utf8

end CommandManual
