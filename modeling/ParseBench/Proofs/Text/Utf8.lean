import ParseBench.Text.Utf8
import Mathlib.Tactic.Lemma
import Mathlib.Tactic.SplitIfs

set_option relaxedAutoImplicit false
set_option autoImplicit false

/-!
# Reading back UTF-8

Whatever text is written in UTF-8 is read back as it was, and whatever bytes are read as a text are
those that the text is written as.

## Main results

* `ParseBench.Text.Utf8.next_utf8EncodeChar` — the bytes of a character are read as that character.
* `ParseBench.Text.Utf8.decode_encode` — the bytes of a text are read as that text.
* `ParseBench.Text.Utf8.encode_of_decode` — bytes that are read as a text are those of the text.

## Implementation notes

The reader tests bytes, and the writer gives them as remainders of the number of the character. All
tests are therefore moved to natural numbers first, where they are linear.
-/

namespace ParseBench.Text.Utf8

/-! ## Tests of bytes as numbers -/

/-- A byte is below another exactly if the number is. -/
lemma ofNat_lt_iff {n : Nat} (h : n < 256) (k : UInt8) : UInt8.ofNat n < k ↔ n < k.toNat := by
  rw [UInt8.lt_iff_toNat_lt, UInt8.toNat_ofNat_of_lt' h]

/-- A byte is above another exactly if the number is. -/
lemma lt_ofNat_iff {n : Nat} (h : n < 256) (k : UInt8) : k < UInt8.ofNat n ↔ k.toNat < n := by
  rw [UInt8.lt_iff_toNat_lt, UInt8.toNat_ofNat_of_lt' h]

/-- A byte is at most another exactly if the number is. -/
lemma ofNat_le_iff {n : Nat} (h : n < 256) (k : UInt8) : UInt8.ofNat n ≤ k ↔ n ≤ k.toNat := by
  rw [UInt8.le_iff_toNat_le, UInt8.toNat_ofNat_of_lt' h]

/-- A byte is at least another exactly if the number is. -/
lemma le_ofNat_iff {n : Nat} (h : n < 256) (k : UInt8) : k ≤ UInt8.ofNat n ↔ k.toNat ≤ n := by
  rw [UInt8.le_iff_toNat_le, UInt8.toNat_ofNat_of_lt' h]

/-- A byte is tested for equality as its number is. -/
lemma ofNat_beq_iff {n : Nat} (h : n < 256) (k : UInt8) :
    (UInt8.ofNat n == k) = decide (n = k.toNat) := by
  rw [Bool.eq_iff_iff, beq_iff_eq, decide_eq_true_iff, ← UInt8.toNat_inj,
    UInt8.toNat_ofNat_of_lt' h]

/-- The bytes that continue a character, and what they carry. -/
lemma isContinuation_ofNat {n : Nat} (h : n < 64) :
    isContinuation (UInt8.ofNat (n + 128)) = true := by
  have hn : n + 128 < 256 := by omega
  simp only [isContinuation, Bool.and_eq_true, decide_eq_true_iff, le_ofNat_iff hn, ofNat_lt_iff hn]
  exact ⟨by simp, by simp; omega⟩

/-- A continuation byte carries the six bits that it is made from. -/
lemma payload_ofNat {n : Nat} (h : n < 64) : payload (UInt8.ofNat (n + 128)) = n := by
  have hn : n + 128 < 256 := by omega
  rw [payload, UInt8.toNat_ofNat_of_lt' hn]
  omega

/-- Which second bytes are admitted, in numbers. -/
lemma admitsSecond_ofNat {a b : Nat} (ha : a < 256) (hb : b < 64)
    (hE0 : a = 0xE0 → 0x20 ≤ b) (hED : a = 0xED → b < 0x20) (hF0 : a = 0xF0 → 0x10 ≤ b)
    (hF4 : a = 0xF4 → b < 0x10) :
    admitsSecond (UInt8.ofNat a) (UInt8.ofNat (b + 128)) = true := by
  have hb' : b + 128 < 256 := by omega
  simp only [admitsSecond, secondBounds, ofNat_beq_iff ha, Bool.and_eq_true, decide_eq_true_iff,
    le_ofNat_iff hb', ofNat_le_iff hb']
  split_ifs with h1 h2 h3 h4
  all_goals simp at *
  all_goals omega

/-! ## Single characters -/

/-- One byte up to 7F is read as the character of its number. -/
lemma next_one {v : Nat} (h : v ≤ 0x7f) (rest : Bytes) :
    next (UInt8.ofNat v) rest = .char (Char.ofNat v) 0 := by
  have hv : v < 256 := by omega
  have h1 : UInt8.ofNat v < 0x80 := (ofNat_lt_iff hv _).2 (by simp; omega)
  simp only [next, h1, if_true, UInt8.toNat_ofNat_of_lt' hv]

/-- The two bytes of a number up to 7FF are read as its character. -/
lemma next_two {v : Nat} (h : 0x7f < v) (h' : v ≤ 0x7ff) (rest : Bytes) :
    next (UInt8.ofNat (v / 64 % 0x20 + 0xc0)) (UInt8.ofNat (v % 0x40 + 0x80) :: rest) =
      .char (Char.ofNat v) 1 := by
  have ha : v / 64 % 0x20 + 0xc0 < 256 := by omega
  have hb : v % 0x40 < 64 := by omega
  have h1 : ¬ UInt8.ofNat (v / 64 % 0x20 + 0xc0) < 0x80 := by rw [ofNat_lt_iff ha]; simp
  have h2 : ¬ (UInt8.ofNat (v / 64 % 0x20 + 0xc0) < 0xC2) := by rw [ofNat_lt_iff ha]; simp; omega
  have h3 : ¬ 0xF4 < UInt8.ofNat (v / 64 % 0x20 + 0xc0) := by rw [lt_ofNat_iff ha]; simp; omega
  have h4 : UInt8.ofNat (v / 64 % 0x20 + 0xc0) < 0xE0 := (ofNat_lt_iff ha _).2 (by simp; omega)
  have hs : admitsSecond (UInt8.ofNat (v / 64 % 0x20 + 0xc0))
      (UInt8.ofNat (v % 0x40 + 0x80)) = true :=
    admitsSecond_ofNat ha hb (by omega) (by omega) (by omega) (by omega)
  simp only [next, h1, h2, h3, h4, hs, decide_false, Bool.or_self, if_false, if_true, Bool.not_true,
    Bool.false_eq_true, payload_ofNat hb, UInt8.toNat_ofNat_of_lt' ha]
  congr 2
  omega

/-- The three bytes of a number up to FFFF are read as its character, unless it is a surrogate. -/
lemma next_three {v : Nat} (h : 0x7ff < v) (h' : v ≤ 0xffff) (hs : v < 0xd800 ∨ 0xdfff < v)
    (rest : Bytes) :
    next (UInt8.ofNat (v / 4096 % 0x10 + 0xe0))
        (UInt8.ofNat (v / 64 % 0x40 + 0x80) :: UInt8.ofNat (v % 0x40 + 0x80) :: rest) =
      .char (Char.ofNat v) 2 := by
  have ha : v / 4096 % 0x10 + 0xe0 < 256 := by omega
  have hb : v / 64 % 0x40 < 64 := by omega
  have hc : v % 0x40 < 64 := by omega
  have h1 : ¬ UInt8.ofNat (v / 4096 % 0x10 + 0xe0) < 0x80 := by rw [ofNat_lt_iff ha]; simp
  have h2 : ¬ UInt8.ofNat (v / 4096 % 0x10 + 0xe0) < 0xC2 := by rw [ofNat_lt_iff ha]; simp
  have h3 : ¬ 0xF4 < UInt8.ofNat (v / 4096 % 0x10 + 0xe0) := by rw [lt_ofNat_iff ha]; simp; omega
  have h4 : ¬ UInt8.ofNat (v / 4096 % 0x10 + 0xe0) < 0xE0 := by rw [ofNat_lt_iff ha]; simp
  have h5 : UInt8.ofNat (v / 4096 % 0x10 + 0xe0) < 0xF0 := (ofNat_lt_iff ha _).2 (by simp; omega)
  have hsecond : admitsSecond (UInt8.ofNat (v / 4096 % 0x10 + 0xe0))
      (UInt8.ofNat (v / 64 % 0x40 + 0x80)) = true :=
    admitsSecond_ofNat ha hb (by omega) (by omega) (by omega) (by omega)
  simp only [next, h1, h2, h3, h4, h5, hsecond, isContinuation_ofNat hc, decide_false, Bool.or_self,
    if_false, if_true, Bool.not_true, Bool.false_eq_true, payload_ofNat hb, payload_ofNat hc,
    UInt8.toNat_ofNat_of_lt' ha]
  congr 2
  omega

/-- The four bytes of a larger number are read as its character. -/
lemma next_four {v : Nat} (h : 0xffff < v) (h' : v < 0x110000) (rest : Bytes) :
    next (UInt8.ofNat (v / 262144 % 0x08 + 0xf0))
        (UInt8.ofNat (v / 4096 % 0x40 + 0x80) :: UInt8.ofNat (v / 64 % 0x40 + 0x80) ::
          UInt8.ofNat (v % 0x40 + 0x80) :: rest) =
      .char (Char.ofNat v) 3 := by
  have ha : v / 262144 % 0x08 + 0xf0 < 256 := by omega
  have hb : v / 4096 % 0x40 < 64 := by omega
  have hc : v / 64 % 0x40 < 64 := by omega
  have hd : v % 0x40 < 64 := by omega
  have h1 : ¬ UInt8.ofNat (v / 262144 % 0x08 + 0xf0) < 0x80 := by rw [ofNat_lt_iff ha]; simp
  have h2 : ¬ UInt8.ofNat (v / 262144 % 0x08 + 0xf0) < 0xC2 := by rw [ofNat_lt_iff ha]; simp
  have h3 : ¬ 0xF4 < UInt8.ofNat (v / 262144 % 0x08 + 0xf0) := by rw [lt_ofNat_iff ha]; simp; omega
  have h4 : ¬ UInt8.ofNat (v / 262144 % 0x08 + 0xf0) < 0xE0 := by rw [ofNat_lt_iff ha]; simp
  have h5 : ¬ UInt8.ofNat (v / 262144 % 0x08 + 0xf0) < 0xF0 := by rw [ofNat_lt_iff ha]; simp
  have hsecond : admitsSecond (UInt8.ofNat (v / 262144 % 0x08 + 0xf0))
      (UInt8.ofNat (v / 4096 % 0x40 + 0x80)) = true :=
    admitsSecond_ofNat ha hb (by omega) (by omega) (by omega) (by omega)
  simp only [next, h1, h2, h3, h4, h5, hsecond, isContinuation_ofNat hc, isContinuation_ofNat hd,
    decide_false, Bool.or_self, if_false, Bool.not_true, Bool.false_eq_true, payload_ofNat hb,
    payload_ofNat hc, payload_ofNat hd, UInt8.toNat_ofNat_of_lt' ha]
  congr 2
  omega

/-- The bytes of a character are read as that character, whatever follows them. -/
lemma next_utf8EncodeChar (c : Char) : ∃ a more, String.utf8EncodeChar c = a :: more ∧
    ∀ rest, next a (more ++ rest) = .char c more.length := by
  have hv : c.val.toNat < 0xd800 ∨ 0xdfff < c.val.toNat ∧ c.val.toNat < 0x110000 := c.valid
  have hc : Char.ofNat c.val.toNat = c := Char.ofNat_toNat c
  rw [String.utf8EncodeChar]
  split_ifs with h1 h2 h3
  · exact ⟨_, [], rfl, fun rest => by rw [List.nil_append, next_one h1, hc]; rfl⟩
  · exact ⟨_, [_], rfl, fun rest => by
      rw [List.cons_append, List.nil_append, next_two (by omega) h2, hc]; rfl⟩
  · exact ⟨_, [_, _], rfl, fun rest => by
      rw [List.cons_append, List.cons_append, List.nil_append,
        next_three (by omega) h3 (by omega), hc]
      rfl⟩
  · exact ⟨_, [_, _, _], rfl, fun rest => by
      rw [List.cons_append, List.cons_append, List.cons_append, List.nil_append,
        next_four (by omega) (by omega), hc]
      rfl⟩

/-! ## Texts -/

/-- The bytes that belong to a character already read are skipped. -/
lemma decodeFrom_skip (read : List Char) (more rest : Bytes) (offset : Nat) :
    decodeFrom offset more.length read (more ++ rest) =
      decodeFrom (offset + more.length) 0 read rest := by
  induction more generalizing offset with
  | nil => rfl
  | cons b more ih =>
    rw [List.cons_append, List.length_cons, decodeFrom, ih]
    congr 1
    omega

/-- Reading the bytes of characters adds those characters to what has been read.

**Proof sketch.** Induction on the characters: the first byte of a character is read as the whole of
it (`next_utf8EncodeChar`), and the others are skipped. -/
lemma decodeFrom_encodeChars (s read : List Char) (offset : Nat) :
    decodeFrom offset 0 read (encodeChars s) = .ok (read.reverse ++ s) := by
  induction s generalizing read offset with
  | nil =>
    rw [encodeChars, List.flatMap_nil, decodeFrom, List.append_nil]
  | cons c s ih =>
    obtain ⟨a, more, hbytes, hnext⟩ := next_utf8EncodeChar c
    have hcons : encodeChars (c :: s) = a :: (more ++ encodeChars s) := by
      rw [encodeChars, List.flatMap_cons, hbytes, List.cons_append]
      rfl
    rw [hcons, decodeFrom, hnext]
    dsimp only
    rw [decodeFrom_skip, ih, List.reverse_cons, List.append_assoc]
    rfl

/-- **The bytes of a text are read as that text.** -/
lemma decode_encode (s : String) : decode (encode s) = .ok s := by
  rw [decode, decodeChars, encode, decodeFrom_encodeChars]
  simp [Except.map]

/-! ## Writing what was read -/

/-- A number that is a code point is the number of its character. -/
lemma toNat_ofNat {n : Nat} (h : n < 0xd800 ∨ 0xdfff < n ∧ n < 0x110000) :
    (Char.ofNat n).val.toNat = n := by
  have hvalid : n.isValidChar := h
  rw [Char.ofNat, dif_pos hvalid]
  rfl

/-- A byte is a number exactly if the numbers agree. -/
lemma ofNat_eq_iff {n : Nat} (h : n < 256) {a : UInt8} : UInt8.ofNat n = a ↔ n = a.toNat := by
  rw [← UInt8.toNat_inj, UInt8.toNat_ofNat_of_lt' h]

/-- The bounds of a second byte, in numbers. -/
lemma toNat_of_admitsSecond {a b : UInt8} (h : admitsSecond a b = true) :
    0x80 ≤ b.toNat ∧ b.toNat < 0xC0 ∧ (a.toNat = 0xE0 → 0xA0 ≤ b.toNat) ∧
      (a.toNat = 0xED → b.toNat < 0xA0) ∧ (a.toNat = 0xF0 → 0x90 ≤ b.toNat) ∧
      (a.toNat = 0xF4 → b.toNat < 0x90) := by
  have hbeq : ∀ k : UInt8, (a == k) = decide (a.toNat = k.toNat) := by
    intro k
    rw [Bool.eq_iff_iff, beq_iff_eq, decide_eq_true_iff, UInt8.toNat_inj]
  simp only [admitsSecond, secondBounds, hbeq, Bool.and_eq_true, decide_eq_true_iff,
    UInt8.le_iff_toNat_le] at h
  split_ifs at h with h1 h2 h3 h4
  all_goals simp at *
  all_goals omega

/-- A continuation byte lies between 80 and BF. -/
lemma toNat_of_isContinuation {b : UInt8} (h : isContinuation b = true) :
    0x80 ≤ b.toNat ∧ b.toNat < 0xC0 := by
  simpa [isContinuation, UInt8.le_iff_toNat_le, UInt8.lt_iff_toNat_lt] using h

/-- A byte below 80 is the encoding of its character. -/
lemma utf8EncodeChar_one {a : UInt8} (ha : a.toNat < 0x80) :
    String.utf8EncodeChar (Char.ofNat a.toNat) = [a] := by
  rw [String.utf8EncodeChar, toNat_ofNat (by omega), if_pos (by omega), UInt8.ofNat_toNat]

/-- A lead byte from C2 and one continuation byte are the encoding of their character. -/
lemma utf8EncodeChar_two {a b : UInt8} (ha : 0xC2 ≤ a.toNat) (ha' : a.toNat < 0xE0)
    (hb : 0x80 ≤ b.toNat ∧ b.toNat < 0xC0) :
    String.utf8EncodeChar (Char.ofNat ((a.toNat % 32) * 64 + payload b)) = [a, b] := by
  rw [payload]
  generalize hv : a.toNat % 32 * 64 + b.toNat % 64 = v
  rw [String.utf8EncodeChar, toNat_ofNat (by omega), if_neg (by omega), if_pos (by omega),
    (ofNat_eq_iff (a := a) (by omega)).2 (by omega),
    (ofNat_eq_iff (a := b) (by omega)).2 (by omega)]

/-- A lead byte from E0 and two continuation bytes are the encoding of their character, if they are
no shorter form and no surrogate. -/
lemma utf8EncodeChar_three {a b c : UInt8} (ha : 0xE0 ≤ a.toNat) (ha' : a.toNat < 0xF0)
    (hb : 0x80 ≤ b.toNat ∧ b.toNat < 0xC0) (hE0 : a.toNat = 0xE0 → 0xA0 ≤ b.toNat)
    (hED : a.toNat = 0xED → b.toNat < 0xA0) (hc : 0x80 ≤ c.toNat ∧ c.toNat < 0xC0) :
    String.utf8EncodeChar (Char.ofNat (((a.toNat % 16) * 64 + payload b) * 64 + payload c)) =
      [a, b, c] := by
  rw [payload, payload]
  generalize hv : (a.toNat % 16 * 64 + b.toNat % 64) * 64 + c.toNat % 64 = v
  rw [String.utf8EncodeChar, toNat_ofNat (by omega), if_neg (by omega), if_neg (by omega),
    if_pos (by omega),
    (ofNat_eq_iff (a := a) (by omega)).2 (by omega),
    (ofNat_eq_iff (a := b) (by omega)).2 (by omega),
    (ofNat_eq_iff (a := c) (by omega)).2 (by omega)]

/-- A lead byte from F0 and three continuation bytes are the encoding of their character, if they
are no shorter form and in range. -/
lemma utf8EncodeChar_four {a b c d : UInt8} (ha : 0xF0 ≤ a.toNat) (ha' : a.toNat ≤ 0xF4)
    (hb : 0x80 ≤ b.toNat ∧ b.toNat < 0xC0) (hF0 : a.toNat = 0xF0 → 0x90 ≤ b.toNat)
    (hF4 : a.toNat = 0xF4 → b.toNat < 0x90) (hc : 0x80 ≤ c.toNat ∧ c.toNat < 0xC0)
    (hd : 0x80 ≤ d.toNat ∧ d.toNat < 0xC0) :
    String.utf8EncodeChar (Char.ofNat
      ((((a.toNat % 8) * 64 + payload b) * 64 + payload c) * 64 + payload d)) = [a, b, c, d] := by
  rw [payload, payload, payload]
  generalize hv :
    ((a.toNat % 8 * 64 + b.toNat % 64) * 64 + c.toNat % 64) * 64 + d.toNat % 64 = v
  rw [String.utf8EncodeChar, toNat_ofNat (by omega), if_neg (by omega), if_neg (by omega),
    if_neg (by omega),
    (ofNat_eq_iff (a := a) (by omega)).2 (by omega),
    (ofNat_eq_iff (a := b) (by omega)).2 (by omega),
    (ofNat_eq_iff (a := c) (by omega)).2 (by omega),
    (ofNat_eq_iff (a := d) (by omega)).2 (by omega)]

/-- **A character is read from its own bytes** and from no others. -/
lemma utf8EncodeChar_of_next {a : UInt8} {rest : Bytes} {x : Char} {more : Nat}
    (h : next a rest = .char x more) :
    ∃ tail after, rest = tail ++ after ∧ tail.length = more ∧
      String.utf8EncodeChar x = a :: tail := by
  rw [next.eq_def] at h
  by_cases h1 : a < 0x80
  · rw [if_pos h1] at h
    cases h
    exact ⟨[], rest, rfl, rfl, utf8EncodeChar_one (UInt8.lt_iff_toNat_lt.1 h1)⟩
  by_cases h2 : (decide (a < 0xC2) || decide (0xF4 < a)) = true
  · rw [if_neg h1, if_pos h2] at h
    cases h
  rw [if_neg h1, if_neg h2] at h
  simp only [Bool.or_eq_true, decide_eq_true_iff, not_or, UInt8.lt_iff_toNat_lt,
    UInt8.reduceToNat] at h2
  cases rest with
  | nil => cases h
  | cons b rest =>
    cases hsecond : admitsSecond a b with
    | false => simp [hsecond] at h
    | true =>
      obtain ⟨hb, hb', hE0, hED, hF0, hF4⟩ := toNat_of_admitsSecond hsecond
      simp only [hsecond, Bool.not_true, Bool.false_eq_true, if_false] at h
      by_cases h3 : a < 0xE0
      · rw [if_pos h3] at h
        cases h
        rw [UInt8.lt_iff_toNat_lt] at h3
        exact ⟨[b], rest, rfl, rfl, utf8EncodeChar_two (by omega) h3 ⟨hb, hb'⟩⟩
      rw [if_neg h3] at h
      simp only [UInt8.lt_iff_toNat_lt, UInt8.reduceToNat] at h3
      cases rest with
      | nil => cases h
      | cons c rest =>
        cases hthird : isContinuation c with
        | false => simp [hthird] at h
        | true =>
          have hc := toNat_of_isContinuation hthird
          simp only [hthird, Bool.not_true, Bool.false_eq_true, if_false] at h
          by_cases h4 : a < 0xF0
          · rw [if_pos h4] at h
            cases h
            rw [UInt8.lt_iff_toNat_lt] at h4
            exact ⟨[b, c], rest, rfl, rfl,
              utf8EncodeChar_three (by omega) h4 ⟨hb, hb'⟩ hE0 hED hc⟩
          rw [if_neg h4] at h
          simp only [UInt8.lt_iff_toNat_lt, UInt8.reduceToNat] at h4
          cases rest with
          | nil => cases h
          | cons d rest =>
            cases hfourth : isContinuation d with
            | false => simp [hfourth] at h
            | true =>
              have hd := toNat_of_isContinuation hfourth
              simp only [hfourth, Bool.not_true, Bool.false_eq_true, if_false] at h
              cases h
              exact ⟨[b, c, d], rest, rfl, rfl,
                utf8EncodeChar_four (by omega) (by omega) ⟨hb, hb'⟩ hF0 hF4 hc hd⟩

/-- What is read from bytes is written as those bytes.

**Proof sketch.** Induction on the number of bytes: the first character is read from its own bytes
(`utf8EncodeChar_of_next`), and the reader goes on behind them. -/
lemma encodeChars_of_decodeFrom {bytes : Bytes} {read chars : List Char} {offset : Nat}
    (h : decodeFrom offset 0 read bytes = .ok chars) :
    ∃ s, chars = read.reverse ++ s ∧ encodeChars s = bytes := by
  induction hn : bytes.length using Nat.strongRecOn generalizing bytes read offset with
  | ind n ih =>
    subst hn
    cases bytes with
    | nil =>
      cases h
      exact ⟨[], by simp, rfl⟩
    | cons b rest =>
      rw [decodeFrom] at h
      cases hnext : next b rest with
      | fault reason more =>
        rw [hnext] at h
        cases h
      | char c more =>
        rw [hnext] at h
        obtain ⟨tail, after, rfl, rfl, hbytes⟩ := utf8EncodeChar_of_next hnext
        dsimp only at h
        rw [decodeFrom_skip] at h
        have hshorter : after.length < (b :: (tail ++ after)).length := by
          rw [List.length_cons, List.length_append]
          omega
        obtain ⟨s, rfl, rfl⟩ := ih after.length hshorter h rfl
        refine ⟨c :: s, by simp, ?_⟩
        rw [encodeChars, List.flatMap_cons, hbytes]
        rfl

/-- **Bytes that are read as a text are those of the text.** -/
lemma encode_of_decode {bytes : Bytes} {s : String} (h : decode bytes = .ok s) :
    encode s = bytes := by
  rw [decode, decodeChars] at h
  cases hchars : decodeFrom 0 0 [] bytes with
  | error fault =>
    rw [hchars] at h
    cases h
  | ok chars =>
    rw [hchars] at h
    cases h
    obtain ⟨s, rfl, hs⟩ := encodeChars_of_decodeFrom hchars
    rw [encode, String.toList_ofList]
    exact hs

end ParseBench.Text.Utf8
