import LivePreview.Proofs.Server.Routes

/-!
# Answers without their data

What one who asks for the head of an answer alone is told, against what one is told who asks for all
of it, under the same target and with the same headers.

1. Both requests are told apart only where the body of a blob is sent (`Sends`): one who asks for
   the head is given the same answer without data, and everywhere else the very same answer
   (`respond_head`).
2. Hence status and headers always agree, and the length that is told agrees unless a blob that is
   sent is not empty; then the head tells the length 0 (`head_told_as_whole`,
   `head_understates_length`).
-/

namespace LivePreview.Server

open Surface (Blob Blobs)

namespace Request

/-- A request for all of an answer. -/
def get (target : String) (headers : List (String × String)) : Request := ⟨"GET", target, headers⟩

/-- The request for the head of the same answer. -/
def head (target : String) (headers : List (String × String)) : Request := ⟨"HEAD", target, headers⟩

end Request

/-- The body of a blob is sent: the server is not shutting down, the target is the address of the
blob, and its tag is not named. -/
structure Sends (site : Site) (closing : Bool) (r : Request) (b : Blob) : Prop where
  isOpen : closing = false
  address : site.under? r.path = some b
  isNew : r.header? "if-none-match" ≠ some b.tag

/-- At most one blob is sent. -/
theorem Sends.unique {site : Site} {closing : Bool} {r : Request} {b b' : Blob}
    (h : Sends site closing r b) (h' : Sends site closing r b') : b = b' :=
  Option.some.inj (h.address.symm.trans h'.address)

theorem byteLength_eq_zero_iff {cs : List Char} : Text.byteLength cs = 0 ↔ cs = [] := by
  cases cs with
  | nil => simp
  | cons c cs =>
    have hpos := c.utf8Size_pos
    simp only [Text.byteLength_cons, reduceCtorEq, iff_false]
    omega

section

variable (site : Site) (closing : Bool) (target : String) (headers : List (String × String))

/-- The head of an answer with the body of a blob has no data. -/
theorem blob_head {b : Blob}
    (h : (Request.get target headers).header? "if-none-match" ≠ some b.tag) :
    (Response.blob (.get target headers) b).data = b.body ∧
      Response.blob (.head target headers) b =
        { Response.blob (.get target headers) b with data := "" } := by
  have hhead : (Request.head target headers).header? "if-none-match" ≠ some b.tag := h
  unfold Response.blob
  rw [if_neg h, if_neg hhead]
  exact ⟨rfl, rfl⟩

/-- All that the answers to both requests can be. -/
theorem respond_head :
    (∃ b, Sends site closing (.get target headers) b ∧
      (site.respond closing (.get target headers)).data = b.body ∧
      site.respond closing (.head target headers) =
        { site.respond closing (.get target headers) with data := "" }) ∨
    ((∀ b, ¬ Sends site closing (.get target headers) b) ∧
      site.respond closing (.head target headers) =
        site.respond closing (.get target headers)) := by
  cases closing with
  | true => exact .inr ⟨fun b h => Bool.noConfusion h.isOpen, rfl⟩
  | false =>
    have hpath : (Request.head target headers).path = (Request.get target headers).path := rfl
    have hget : (Request.get target headers).isAnswered = true := rfl
    have hhead : (Request.head target headers).isAnswered = true := rfl
    rw [respond_of_isAnswered hget, respond_of_isAnswered hhead]
    cases hb : site.under? (Request.get target headers).path with
    | none =>
      refine .inr ⟨fun b h => ?_, ?_⟩
      · have haddress := h.address
        rw [hb] at haddress
        cases haddress
      · by_cases hroot : IsRoot (Request.get target headers).path
        · rw [answerAt_of_isRoot hroot, answerAt_of_isRoot (hpath ▸ hroot)]
        · rw [answerAt_of_none hroot hb, answerAt_of_none (hpath ▸ hroot) (hpath ▸ hb)]
    | some b =>
      rw [answerAt_of_some hb, answerAt_of_some (hpath ▸ hb)]
      by_cases hn : (Request.get target headers).header? "if-none-match" = some b.tag
      · refine .inr ⟨fun b' h => ?_, ?_⟩
        · have hsame : b = b' := Option.some.inj (hb.symm.trans h.address)
          exact h.isNew (hsame ▸ hn)
        · have hhead : (Request.head target headers).header? "if-none-match" = some b.tag := hn
          rw [Response.blob, Response.blob, if_pos hn, if_pos hhead]
      · exact .inl ⟨b, ⟨rfl, hb, hn⟩, blob_head target headers hn⟩

end

/-- **The head of an answer is told as all of it is, up to the length of a blob.** Whatever a site
has to give, under every target and with any headers, one who asks for the head alone is told the
same status and the same headers, and receives no data. Unless the body of a blob is sent the
answers are the same, the length of the data included. Where the body of a blob is sent, all of the
answer is told to have its length and the head to have the length 0, so that the lengths agree only
if the body is empty. -/
theorem head_told_as_whole (site : Site) (closing : Bool) (target : String)
    (headers : List (String × String)) :
    let whole := site.respond closing (.get target headers)
    let head := site.respond closing (.head target headers)
    head.status = whole.status ∧ head.headers = whole.headers ∧
    head.received (.head target headers) = "" ∧
    ((∀ b, ¬ Sends site closing (.get target headers) b) → head = whole) ∧
    (∀ b, Sends site closing (.get target headers) b →
      whole.length = Text.byteLength b.body.toList ∧ head.length = 0) ∧
    (head.length = whole.length ↔
      ∀ b, Sends site closing (.get target headers) b → b.body = "") := by
  intro whole head
  have hreceived : head.received (.head target headers) = "" := by
    unfold Response.received
    exact if_pos rfl
  rcases respond_head site closing target headers with ⟨b, hs, hdata, hh⟩ | ⟨hn, hh⟩
  · have hwhole : whole.length = Text.byteLength b.body.toList := by
      rw [← hdata]
      rfl
    have hhead : head = { whole with data := "" } := hh
    have hzero : head.length = 0 := by
      rw [hhead]
      rfl
    refine ⟨by rw [hhead], by rw [hhead], hreceived, fun hn => absurd hs (hn b), ?_, ?_⟩
    · intro b' hs'
      rw [← hs.unique hs']
      exact ⟨hwhole, hzero⟩
    · rw [hzero, hwhole, eq_comm, byteLength_eq_zero_iff, String.toList_eq_nil_iff]
      exact ⟨fun he b' hs' => hs.unique hs' ▸ he, fun he => he b hs⟩
  · have hhead : head = whole := hh
    rw [hhead]
    exact ⟨rfl, rfl, hhead ▸ hreceived, fun _ => rfl, fun b hs => absurd hs (hn b),
      iff_of_true rfl fun b hs => absurd hs (hn b)⟩

/-- The head of a blob with eight bytes is told to be of length 0, with the status and the headers
of the whole. -/
theorem head_understates_length :
    let site : Site := ⟨"note.md", 35729, (Blobs.empty.insert "<p>a</p>").2⟩
    let whole := site.respond false (.get "/blob/1" [])
    let head := site.respond false (.head "/blob/1" [])
    head.status = whole.status ∧ head.headers = whole.headers ∧
      whole.length = 8 ∧ head.length = 0 := by
  decide +kernel

end LivePreview.Server
