/-! Byte strings, and the fixed-width numbers laid out in them.

A number of `w` bytes is read by `ofLittle`/`ofBig` and written by `little`/`big`; writing keeps
the low `w` bytes of the number, so reading back what was written gives it modulo `limit w`. -/
namespace ThumbDrive

/-- A string of bytes. -/
abbrev Bytes := List UInt8

namespace Bytes

/-- The `n` bytes from `start` on, fewer where the string ends before. -/
def slice (b : Bytes) (start n : Nat) : Bytes := (b.drop start).take n

/-- A buffer after `got` was read into it from its start on: what there is room for, and after that
what was there before. -/
def fill (buffer got : Bytes) : Bytes := got.take buffer.length ++ buffer.drop got.length

/-- The number whose base-256 digits are the bytes, lowest first. -/
def ofLittle : Bytes → Nat
  | [] => 0
  | x :: b => x.toNat + 256 * ofLittle b

/-- The number whose base-256 digits are the bytes, highest first. -/
def ofBig (b : Bytes) : Nat := ofLittle b.reverse

/-- The low `w` base-256 digits of `n`, lowest first. -/
def little : (w : Nat) → (n : Nat) → Bytes
  | 0, _ => []
  | w + 1, n => UInt8.ofNat n :: little w (n / 256)

/-- The low `w` base-256 digits of `n`, highest first. -/
def big (w n : Nat) : Bytes := (little w n).reverse

/-- The byte at `i` as a number, `0` past the end. -/
def byteAt (b : Bytes) (i : Nat) : Nat := (b.getD i 0).toNat

/-- The little-endian number of two bytes at `i`. -/
def word16 (b : Bytes) (i : Nat) : Nat := ofLittle (slice b i 2)

/-- The little-endian number of four bytes at `i`. -/
def word32 (b : Bytes) (i : Nat) : Nat := ofLittle (slice b i 4)

/-- The bytes of a text made of characters below U+0100. -/
def ofAscii (s : String) : Bytes := s.toList.map fun c => UInt8.ofNat c.toNat

/-! Numbers written and read back. -/

/-- The first number that `w` bytes have no room for. -/
def limit : Nat → Nat
  | 0 => 1
  | w + 1 => 256 * limit w

theorem limit_le {v w : Nat} (h : v ≤ w) : limit v ≤ limit w := by
  induction h with
  | refl => exact Nat.le_refl _
  | step _ ih =>
    rw [limit]
    omega

@[simp] theorem length_little (w n : Nat) : (little w n).length = w := by
  induction w generalizing n with
  | zero => rfl
  | succ w ih => simp only [little, List.length_cons, ih]

theorem ofLittle_little (w n : Nat) : ofLittle (little w n) = n % limit w := by
  induction w generalizing n with
  | zero => simp only [little, ofLittle, limit, Nat.mod_one]
  | succ w ih =>
    have hbyte : (UInt8.ofNat n).toNat = n % 256 := UInt8.toNat_ofNat'
    rw [little, ofLittle, ih, hbyte, limit, Nat.mod_mul]

theorem ofLittle_lt (b : Bytes) : ofLittle b < limit b.length := by
  induction b with
  | nil => exact Nat.one_pos
  | cons x b ih =>
    have hx : x.toNat < 256 := x.toNat_lt
    rw [ofLittle, List.length_cons, limit]
    omega

theorem little_ofLittle (b : Bytes) : little b.length (ofLittle b) = b := by
  induction b with
  | nil => rfl
  | cons x b ih =>
    have hx : x.toNat < 256 := x.toNat_lt
    have hrest : (x.toNat + 256 * ofLittle b) / 256 = ofLittle b := by omega
    have hfirst : UInt8.ofNat (x.toNat + 256 * ofLittle b) = x := by
      apply UInt8.toNat_inj.mp
      rw [UInt8.toNat_ofNat']
      omega
    rw [List.length_cons, ofLittle, little, hrest, hfirst, ih]

theorem length_slice {b : Bytes} {start n : Nat} (h : start + n ≤ b.length) :
    (slice b start n).length = n := by
  simp only [slice, List.length_take, List.length_drop]
  omega

/-- Strings with the same bytes are the same. -/
theorem ext_slice {b c : Bytes} (hlength : b.length = c.length)
    (h : ∀ i < b.length, slice b i 1 = slice c i 1) : b = c := by
  apply List.ext_getElem hlength
  intro i hb hc
  have hi := h i hb
  rw [slice, slice, List.drop_eq_getElem_cons hb, List.drop_eq_getElem_cons hc] at hi
  exact (List.cons.inj hi).1

/-- A byte is a string of one byte. -/
theorem byteAt_eq_slice (b : Bytes) (i : Nat) : byteAt b i = byteAt (slice b i 1) 0 := by
  simp [byteAt, slice, List.getD_eq_getElem?_getD]

theorem word32_lt (b : Bytes) (i : Nat) : word32 b i < 4294967296 := by
  have hlen : (slice b i 4).length ≤ 4 := List.length_take_le _ _
  exact Nat.lt_of_lt_of_le (ofLittle_lt (slice b i 4)) (limit_le hlen)

/-- Four bytes are those of the number they make. -/
theorem little_word32 {b : Bytes} {i : Nat} (h : i + 4 ≤ b.length) :
    little 4 (word32 b i) = slice b i 4 := by
  have hback := little_ofLittle (slice b i 4)
  rwa [length_slice h] at hback

@[simp] theorem length_big (w n : Nat) : (big w n).length = w := by
  rw [big, List.length_reverse, length_little]

theorem ofBig_lt (b : Bytes) : ofBig b < limit b.length := by
  have hlt := ofLittle_lt b.reverse
  rwa [List.length_reverse] at hlt

theorem ofBig_big (w n : Nat) : ofBig (big w n) = n % limit w := by
  rw [ofBig, big, List.reverse_reverse, ofLittle_little]

theorem ofBig_big_of_lt {w n : Nat} (h : n < limit w) : ofBig (big w n) = n := by
  rw [ofBig_big, Nat.mod_eq_of_lt h]

end Bytes
end ThumbDrive
