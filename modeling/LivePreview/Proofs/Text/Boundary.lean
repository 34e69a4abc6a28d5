import LivePreview.Text.Bytes

/-!
# Boundaries and slices

A boundary is a byte offset between two characters. At a boundary a text can be cut into what
`takeBytes` takes and what `dropBytes` leaves, and what is behind it is counted from there.
-/

namespace LivePreview.Text

/-- A byte offset at which a character starts, or the text ends. -/
def IsBoundary (source : List Char) (offset : Nat) : Prop :=
  byteLength (takeBytes offset source) = offset

instance (source : List Char) (offset : Nat) : Decidable (IsBoundary source offset) :=
  inferInstanceAs (Decidable (_ = _))

/-- The characters from one byte offset to another. -/
def slice (source : List Char) (start stop : Nat) : List Char :=
  takeBytes (stop - start) (dropBytes start source)

theorem takeBytes_zero (cs : List Char) : takeBytes 0 cs = [] := by
  cases cs <;> rfl

theorem dropBytes_zero (cs : List Char) : dropBytes 0 cs = cs := by
  cases cs <;> rfl

theorem takeBytes_byteLength (cs : List Char) : takeBytes (byteLength cs) cs = cs := by
  induction cs with
  | nil => rfl
  | cons c cs ih =>
    obtain ⟨n, hn⟩ := Nat.exists_eq_succ_of_ne_zero (Nat.ne_of_gt c.utf8Size_pos)
    have hcut : byteLength (c :: cs) = (n + byteLength cs) + 1 := by
      rw [byteLength_cons, hn]
      omega
    rw [hcut, takeBytes, show n + byteLength cs + 1 - c.utf8Size = byteLength cs by omega, ih]

theorem dropBytes_byteLength (cs : List Char) : dropBytes (byteLength cs) cs = [] := by
  have hcut := takeBytes_append_dropBytes (byteLength cs) cs
  rw [takeBytes_byteLength] at hcut
  exact List.self_eq_append_right.mp hcut.symm

namespace IsBoundary

variable {source : List Char} {n m : Nat}

theorem zero (source : List Char) : IsBoundary source 0 := by
  unfold IsBoundary
  rw [takeBytes_zero, byteLength_nil]

theorem byteLength (source : List Char) : IsBoundary source (byteLength source) :=
  congrArg Text.byteLength (takeBytes_byteLength source)

/-- Behind its first character, a boundary of a text is one of the rest. -/
theorem tail {c : Char} {cs : List Char} (h : IsBoundary (c :: cs) (n + 1)) :
    c.utf8Size ≤ n + 1 ∧ IsBoundary cs (n + 1 - c.utf8Size) := by
  unfold IsBoundary at h ⊢
  rw [takeBytes, byteLength_cons] at h
  omega

/-- What is taken up to a boundary, and what is taken behind it. -/
theorem takeBytes_add (h : IsBoundary source n) (m : Nat) :
    takeBytes (n + m) source = takeBytes n source ++ takeBytes m (dropBytes n source) := by
  induction source generalizing n with
  | nil => cases n <;> cases m <;> rfl
  | cons c cs ih =>
    cases n with
    | zero => rw [Nat.zero_add, takeBytes_zero, dropBytes_zero, List.nil_append]
    | succ n =>
      obtain ⟨hle, htail⟩ := h.tail
      rw [Nat.succ_add, takeBytes, takeBytes, dropBytes, List.cons_append, ← ih htail]
      rw [show n + m + 1 - c.utf8Size = n + 1 - c.utf8Size + m by omega]

/-- What is left behind a boundary is counted from there. -/
theorem dropBytes_add (h : IsBoundary source n) (m : Nat) :
    dropBytes (n + m) source = dropBytes m (dropBytes n source) := by
  induction source generalizing n with
  | nil => cases n <;> cases m <;> rfl
  | cons c cs ih =>
    cases n with
    | zero => rw [Nat.zero_add, dropBytes_zero]
    | succ n =>
      obtain ⟨hle, htail⟩ := h.tail
      rw [Nat.succ_add, dropBytes, dropBytes, ← ih htail]
      rw [show n + m + 1 - c.utf8Size = n + 1 - c.utf8Size + m by omega]

/-- A later boundary is one of what is left behind an earlier one. -/
theorem sub (h : IsBoundary source n) (h' : IsBoundary source m) (hle : n ≤ m) :
    IsBoundary (dropBytes n source) (m - n) := by
  have hcut := h.takeBytes_add (m - n)
  rw [Nat.add_sub_cancel' hle] at hcut
  unfold IsBoundary at h h' ⊢
  rw [hcut, byteLength_append, h] at h'
  omega

/-- A boundary behind another, counted from there. -/
theorem add (h : IsBoundary source n) (h' : IsBoundary (dropBytes n source) m) :
    IsBoundary source (n + m) := by
  have hcut := h.takeBytes_add m
  unfold IsBoundary at h h' ⊢
  rw [hcut, byteLength_append, h, h']

end IsBoundary

end LivePreview.Text
