import LivePreview.Proofs.Text.Entity
import LivePreview.Proofs.Text.Numeral
import LivePreview.Surface.Blobs

/-!
# Blobs and their addresses

1. The number of an address is read back from it (`ofUrl?_urlOf`), and an address needs no escaping
   in a page (`escapeAttribute_urlOf`).
2. A store with no blob but the active one (`Blobs.sole`) is such a store again when another blob is
   put in and made active and the old one is revoked, since numbers in a row are different.
-/

namespace LivePreview.Surface

namespace Blob

theorem address_eq : address = ['/', 'b', 'l', 'o', 'b', '/'] := String.toList_ofList

theorem toList_urlOf (id : Nat) : (urlOf id).toList = address ++ Text.decimal id :=
  String.toList_ofList

theorem readId?_of_decimal {cs : List Char} (hne : cs ≠ [])
    (h : ∀ c ∈ cs, Text.isDecimal c = true) :
    readId? cs =
      if Text.readDecimal cs < idLimit then some (Text.readDecimal cs) else none := by
  rw [readId?]
  · dsimp only
    rw [List.isEmpty_eq_false_iff.mpr hne, List.all_eq_true.mpr h]
    rfl
  · -- no digit is a plus sign
    rintro rest rfl
    exact absurd (h '+' List.mem_cons_self) (by decide)

/-- The number of an address, if it is one that can be given out. -/
theorem ofUrl?_urlOf (id : Nat) :
    ofUrl? (urlOf id).toList = if id < idLimit then some id else none := by
  rw [ofUrl?, toList_urlOf, if_pos (List.isPrefixOf_iff_prefix.mpr (List.prefix_append _ _)),
    List.drop_left, readId?_of_decimal (Text.decimal_ne_nil id) fun c hc =>
      Text.isDecimal_of_mem_decimal hc, Text.readDecimal_decimal]

/-- An address has no character that is escaped in a value. -/
theorem escapeAttribute_urlOf (id : Nat) : Text.escapeAttribute (urlOf id) = urlOf id := by
  have hplain : ∀ c ∈ address ++ Text.decimal id, Text.attributeEntity c = none := by
    intro c hc
    rcases List.mem_append.mp hc with hc | hc
    · have haddress : (['/', 'b', 'l', 'o', 'b', '/'].all
          fun c => Text.attributeEntity c == none) = true := rfl
      exact eq_of_beq (List.all_eq_true.mp haddress c (address_eq ▸ hc))
    · have hdigit : ∀ c, Text.isDecimal c = true → Text.attributeEntity c = none := by
        intro c hc
        unfold Text.attributeEntity
        split <;> first | rfl | cases hc
      exact hdigit c (Text.isDecimal_of_mem_decimal hc)
  rw [Text.escapeAttribute, toList_urlOf, Text.escapeWith_eq_self hplain]
  rfl

/-- The blob of a document under the `n`-th number that is given out. -/
def nth (n : Nat) (body : String) : Blob := ⟨n % idLimit, body⟩

/-- Numbers that are given out in a row are different. -/
theorem nth_succ_id_ne (n : Nat) (body body' : String) :
    (nth (n + 1) body').id ≠ (nth n body).id := by
  show (n + 1) % 18446744073709551616 ≠ n % 18446744073709551616
  omega

end Blob

namespace Blobs

open Blob (nth nth_succ_id_ne)

/-- A store without blobs. -/
def bare (given : Nat) : Blobs := ⟨given, [], none⟩

/-- A store with no blob but the active one, which is the last that was put in. -/
def sole (given : Nat) (body : String) : Blobs := ⟨given, [nth given body], some (nth given body)⟩

/-- A store with the active blob, which is the last that was put in, and the one before. -/
def pair (given : Nat) (old body : String) : Blobs :=
  ⟨given + 1, [nth given old, nth (given + 1) body], some (nth (given + 1) body)⟩

variable (given id : Nat) (old body : String)

theorem activate_insert_bare :
    ((bare given).insert body).2.activate (nth (given + 1) body).id =
      (some (nth (given + 1) body), sole (given + 1) body) := by
  have hget : ((bare given).insert body).2.get? (nth (given + 1) body).id =
      some (nth (given + 1) body) := List.find?_cons_of_pos (beq_self_eq_true _)
  rw [activate, hget]
  rfl

theorem insert_sole : ((sole given old).insert body).2 =
    ⟨given + 1, [nth given old, nth (given + 1) body], some (nth given old)⟩ := by
  have hkeep : ([nth given old].filter fun b => b.id != (nth (given + 1) body).id) =
      [nth given old] :=
    List.filter_cons_of_pos (bne_iff_ne.mpr (nth_succ_id_ne given old body).symm)
  show (⟨given + 1, ([nth given old].filter fun b => b.id != (nth (given + 1) body).id) ++
    [nth (given + 1) body], some (nth given old)⟩ : Blobs) = _
  rw [hkeep]
  rfl

theorem activate_insert_sole :
    ((sole given old).insert body).2.activate (nth (given + 1) body).id =
      (some (nth (given + 1) body), pair given old body) := by
  have hne : ¬ ((nth given old).id == (nth (given + 1) body).id) = true :=
    fun h => nth_succ_id_ne given old body (beq_iff_eq.mp h).symm
  have hget : ((sole given old).insert body).2.get? (nth (given + 1) body).id =
      some (nth (given + 1) body) := by
    rw [insert_sole]
    refine (List.find?_cons_of_neg ?_).trans (List.find?_cons_of_pos (beq_self_eq_true _))
    exact hne
  rw [activate, hget, insert_sole]
  rfl

theorem revoke_pair : (pair given old body).revoke (nth given old).id =
    (false, sole (given + 1) body) := by
  have hne := nth_succ_id_ne given old body
  have hactive : (pair given old body).isActive (nth given old).id = false :=
    beq_eq_false_iff_ne.mpr hne
  have hkeep : ([nth given old, nth (given + 1) body].filter fun b => b.id != (nth given old).id) =
      [nth (given + 1) body] := by
    rw [List.filter_cons_of_neg (by simp)]
    exact List.filter_cons_of_pos (bne_iff_ne.mpr hne)
  rw [revoke, hactive]
  show (false, (⟨given + 1, [nth given old, nth (given + 1) body].filter fun b =>
    b.id != (nth given old).id, some (nth (given + 1) body)⟩ : Blobs)) = _
  rw [hkeep]
  rfl

theorem revoke_sole : (sole given body).revoke (nth given body).id = (true, bare given) := by
  have hactive : (sole given body).isActive (nth given body).id = true := beq_self_eq_true _
  have hdrop : ([nth given body].filter fun b => b.id != (nth given body).id) = [] :=
    List.filter_cons_of_neg (by simp)
  rw [revoke, hactive]
  show (true, (⟨given, [nth given body].filter fun b => b.id != (nth given body).id, none⟩ :
    Blobs)) = _
  rw [hdrop]
  rfl

theorem get?_sole : (sole given body).get? id =
    if (nth given body).id = id then some (nth given body) else none := by
  by_cases h : (nth given body).id = id
  · rw [if_pos h]
    exact List.find?_cons_of_pos (beq_iff_eq.mpr h)
  · rw [if_neg h]
    exact List.find?_cons_of_neg fun hb => h (beq_iff_eq.mp hb)

end Blobs

end LivePreview.Surface
