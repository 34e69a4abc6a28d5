import LivePreview.Proofs.Page
import LivePreview.Proofs.Preview.Alike
import LivePreview.Proofs.Preview.UpToDate
import LivePreview.Proofs.Reload.Delivery
import LivePreview.Proofs.Server.Stored
import LivePreview.Proofs.Surface.Blobs
import LivePreview.Server.Response
import LivePreview.Surface.Served

/-!
# Served previews

A session that keeps its artifacts as blobs, the site that serves them and the hub that tells of
them agree on what is shown, behind every step of every run (`views_agree`).

1. What a record does to the blobs and what is told of it can be computed from the record
   (`Past.blobs`, `Past.told`). The surface does it (`follows_noting`), whether or not its messages
   are noted.
2. `Agrees` relates a slot to its record: the artifact that is live is the one blob, and the last
   thing told is its address. Installing and emptying keep it, and say what is told.
3. From the one blob it can be read off what the site answers (`Shown`, `Blank`).
-/

open LivePreview.Guard (LoopGuard)
open LivePreview.Reload (Hub Message Sends Wire)
open LivePreview.Server (Request Response Site)
open LivePreview.Surface (Blob Blobs Served ServedTo)

namespace LivePreview.Preview

/-! ## What is told -/

/-- What happens does to the blobs, and what is told of it. -/
def Happening.effect (blobs : Blobs) : Happening → Blobs × Option Message
  | .created document _ => ((blobs.insert document).2, none)
  | .displayed artifact _ =>
    match blobs.activate artifact.id with
    | (none, _) => (blobs, none)
    | (some blob, blobs) => (blobs, some (.navigate blob.url.toList))
  | .released artifact =>
    match blobs.revoke artifact.id with
    | (false, blobs) => (blobs, none)
    | (true, blobs) => (blobs, some .closed)
  | .opened _ _ _ | .edited _ | .notified _ | .configured _ _ | .read _ => (blobs, none)

/-- The answer on the record is that of the blobs. -/
def Happening.Answered (blobs : Blobs) : Happening → Prop
  | .created document answer =>
    answer = .ok ⟨(blobs.insert document).1.id, (blobs.insert document).1.url⟩
  | .displayed artifact answer => answer.isOk = (blobs.activate artifact.id).1.isSome
  | _ => True

namespace Past

/-- The blobs behind what has happened. -/
def blobs : Past → Blobs
  | [] => .empty
  | x :: past => (x.effect (blobs past)).1

/-- What was told of what has happened, latest first. -/
def told : Past → List Message
  | [] => []
  | x :: past => (x.effect (blobs past)).2.toList ++ told past

/-- Every answer on the record is that of the blobs. -/
def Answered : Past → Prop
  | [] => True
  | x :: past => x.Answered (blobs past) ∧ Answered past

/-- So it is on an earlier record. -/
theorem Answered.of_suffix {past past' : Past} (h : past <:+ past') (ha : past'.Answered) :
    past.Answered := by
  induction past' with
  | nil =>
    rw [List.suffix_nil.mp h]
    trivial
  | cons x past' ih =>
    rcases List.suffix_cons_iff.mp h with rfl | h
    · exact ha
    · exact ih h ha.2

end Past

end LivePreview.Preview

namespace LivePreview.Reload.Hub

variable {κ : Type}

/-- A hub with notes of what it was told and of what it sent, latest first. -/
structure Noted (κ : Type) where
  hub : Hub κ
  told : List Message
  sent : Reload.Past κ

/-- Telling a hub, with notes. -/
def noting (wire : Wire (StateM Sandbox) κ) (message : Message) (n : Noted κ) :
    StateM Sandbox (Noted κ) := do
  let ((hub, sent), _) ← n.hub.broadcast wire.noted message n.sent ()
  return ⟨hub, message :: n.told, sent⟩

/-- Noting changes nothing of what telling the hub comes to, and what is noted is sent. -/
theorem noting_eq (wire : Wire (StateM Sandbox) κ) (message : Message) (n : Noted κ)
    (w : Sandbox) :
    ∃ sent, noting wire message n w =
        (⟨(n.hub.broadcast wire message w).1, message :: n.told, sent⟩,
          (n.hub.broadcast wire message w).2) ∧
      Sends message.encoded n.hub.clients n.sent (n.hub.broadcast wire message w).1.clients sent ∧
      (n.hub.broadcast wire message w).1.last = some message := by
  obtain ⟨sent, hnoted, hsends, hlast⟩ := n.hub.broadcast_sends wire message n.sent w
  refine ⟨sent, ?_, hsends, hlast⟩
  simp only [noting, bind, StateT.bind, hnoted]
  rfl

end LivePreview.Reload.Hub

namespace LivePreview.Preview

variable {κ : Type}

section

variable [DecidableEq κ]

/-- Those that are left of some clients, none of which is there twice, were sent all that was told,
and nothing else; the others could not be told something. -/
def AllSent (clients left : List κ) (sent : Reload.Past κ) (told : List Message) : Prop :=
  clients.Nodup → left.Sublist clients ∧
    (∀ client ∈ left, sent.told client = told.reverse.map Message.encoded) ∧
    ∀ client ∈ clients, client ∉ left → sent.isGone client = true

/-- So it is behind a further message. -/
theorem AllSent.sends {clients left left' : List κ} {sent sent' : Reload.Past κ}
    {told : List Message} (h : AllSent clients left sent told) {message : Message}
    (hs : Sends message.encoded left sent left' sent') :
    AllSent clients left' sent' (message :: told) := by
  intro hn
  obtain ⟨hsub, hsent, hgone⟩ := h hn
  obtain ⟨hsub', -, hsent'⟩ := hs.told_eq (hn.sublist hsub)
  obtain ⟨hkept, hdropped⟩ := hs.isGone
  refine ⟨hsub'.trans hsub, fun client hc => ?_, fun client hc hnot => ?_⟩
  · rw [hsent' client hc, hsent client (hsub'.subset hc)]
    simp
  · by_cases hleft : client ∈ left
    · exact hdropped client hleft hnot
    · exact hkept client (hgone client hc hleft)

/-- A surface with notes and one without follow the record. -/
structure Follows (clients : List κ) (past : Past) (s : ServedTo (Hub.Noted κ)) (t : Served κ) :
    Prop where
  unnoted : t = ⟨s.blobs, s.hub.hub⟩
  blobs : t.blobs = past.blobs
  told : s.hub.told = past.told
  last : t.hub.last = past.told.head?
  sent : AllSent clients t.hub.clients s.hub.sent past.told
  answered : past.Answered

theorem Follows.start (clients : List κ) :
    Follows clients [] ⟨.empty, ⟨⟨clients, none⟩, [], []⟩⟩ ⟨.empty, ⟨clients, none⟩⟩ :=
  ⟨rfl, rfl, rfl, rfl, fun _ => ⟨.refl _, fun _ _ => rfl, fun _ hc hnot => absurd hc hnot⟩, trivial⟩

section

variable {clients : List κ} {past : Past} {s : ServedTo (Hub.Noted κ)} {t : Served κ}
  {x : Happening} {blobs : Blobs}

/-- What is not told of is followed by the blobs alone. -/
theorem Follows.silent (h : Follows clients past s t) (hx : x.effect past.blobs = (blobs, none))
    (ha : x.Answered past.blobs) :
    Follows clients (x :: past) { s with blobs := blobs } { t with blobs := blobs } := by
  have hblobs : Past.blobs (x :: past) = blobs := congrArg Prod.fst hx
  have htold : Past.told (x :: past) = past.told := by rw [Past.told, hx]; rfl
  refine ⟨by rw [h.unnoted], hblobs.symm, ?_, ?_, ?_, ha, h.answered⟩
  · rw [htold]
    exact h.told
  · rw [htold]
    exact h.last
  · rw [htold]
    exact h.sent

/-- What is told of is followed by telling the hub. -/
theorem Follows.tells (h : Follows clients past s t) {message : Message} {hub : Hub κ}
    {sent : Reload.Past κ} (hx : x.effect past.blobs = (blobs, some message))
    (ha : x.Answered past.blobs)
    (hs : Sends message.encoded t.hub.clients s.hub.sent hub.clients sent)
    (hlast : hub.last = some message) :
    Follows clients (x :: past) ⟨blobs, hub, message :: s.hub.told, sent⟩ ⟨blobs, hub⟩ := by
  have hblobs : Past.blobs (x :: past) = blobs := congrArg Prod.fst hx
  have htold : Past.told (x :: past) = message :: past.told := by rw [Past.told, hx]; rfl
  refine ⟨rfl, hblobs.symm, ?_, ?_, ?_, ha, h.answered⟩
  · rw [htold, h.told]
  · rw [htold]
    exact hlast
  · rw [htold]
    exact h.sent.sends hs

end

end

section

variable {η : Type} (tell : Message → η → StateM Sandbox η) (past : Past) (s : ServedTo η)
  (w : Sandbox)

theorem recorded_display (a : Artifact) :
    (Served.surfaceTo tell).recorded.display a past s w =
      (let (answer, s') := (Served.display tell a s w).1
       (((answer, .displayed a answer :: past), s'), (Served.display tell a s w).2)) := rfl

theorem recorded_release (a : Artifact) :
    (Served.surfaceTo tell).recorded.release a past s w =
      ((((), .released a :: past), (Served.release tell a s w).1.2),
        (Served.release tell a s w).2) := rfl

end

/-- The surface follows the record, with notes and without. -/
theorem follows_noting [DecidableEq κ] (wire : Wire (StateM Sandbox) κ) (clients : List κ) :
    Surface.Alike (Follows clients) (Served.surfaceTo (Hub.noting wire)) (Served.surface wire) where
  host x hx past s t h := by
    obtain ⟨blobs, hub⟩ := s
    obtain rfl := h.unnoted
    obtain rfl : blobs = past.blobs := h.blobs
    cases x <;> first | exact hx.elim | exact h.silent rfl trivial
  create document past s t w h := by
    obtain ⟨blobs, hub⟩ := s
    obtain rfl := h.unnoted
    obtain rfl : blobs = past.blobs := h.blobs
    exact ⟨rfl, rfl, h.silent rfl rfl⟩
  display artifact past s t w h := by
    obtain ⟨blobs, hub⟩ := s
    obtain rfl := h.unnoted
    obtain rfl : blobs = past.blobs := h.blobs
    rw [Served.surface, recorded_display, recorded_display, Served.display, Served.display]
    dsimp only
    cases hact : past.blobs.activate artifact.id with
    | mk found blobs =>
      cases found with
      | none =>
        refine ⟨rfl, rfl, h.silent ?_ ?_⟩
        · simp only [Happening.effect, hact]
        · simp only [Happening.Answered, hact]
          rfl
      | some blob =>
        obtain ⟨sent, hnoting, hsends, hlast⟩ :=
          Hub.noting_eq wire (.navigate blob.url.toList) hub w
        simp only [bind, StateT.bind, hnoting]
        refine ⟨rfl, rfl, h.tells ?_ ?_ hsends hlast⟩
        · simp only [Happening.effect, hact]
        · simp only [Happening.Answered, hact]
          rfl
  release artifact past s t w h := by
    obtain ⟨blobs, hub⟩ := s
    obtain rfl := h.unnoted
    obtain rfl : blobs = past.blobs := h.blobs
    rw [Served.surface, recorded_release, recorded_release, Served.release, Served.release]
    dsimp only
    cases hrev : past.blobs.revoke artifact.id with
    | mk active blobs =>
      cases active with
      | false => exact ⟨rfl, rfl, h.silent (by simp only [Happening.effect, hrev]) trivial⟩
      | true =>
        obtain ⟨sent, hnoting, hsends, hlast⟩ := Hub.noting_eq wire .closed hub w
        simp only [bind, StateT.bind, hnoting]
        exact ⟨trivial, rfl, h.tells (by simp only [Happening.effect, hrev]) trivial hsends hlast⟩

/-! ## The slot and the record -/

/-- The artifact that is made of a blob. -/
def artifactOf (b : Blob) : Artifact := ⟨b.id, b.url⟩

/-- How a slot relates to its record. -/
def Agrees (slot : Slot) (past : Past) : Prop :=
  match slot.live with
  | none => (∃ given, past.blobs = .bare given) ∧
      (past.offered = [] ∧ past.told = [] ∨ past.offered ≠ [] ∧ past.told.head? = some .closed)
  | some artifact => ∃ given document, past.blobs = .sole given document ∧
      artifact = artifactOf (.nth given document) ∧
      past.offered.head? = some document ∧
      past.told.head? = some (.navigate artifact.location.toList)

section

variable {engine : Engine} {s s' : Session} {slot slot' : Slot} {past past' : Past} {blobs : Blobs}
  {artifact : Artifact} {document : String} {answer : Except SurfaceError Artifact}

theorem Past.released_eq {active : Bool} (h : past.blobs.revoke artifact.id = (active, blobs)) :
    Past.blobs (.released artifact :: past) = blobs ∧
      Past.told (.released artifact :: past) =
        if active then .closed :: past.told else past.told := by
  simp only [Past.blobs, Past.told, Happening.effect, h]
  cases active <;> simp

theorem Past.displayed_eq {blob : Blob} (answer : Except SurfaceError Unit)
    (h : past.blobs.activate artifact.id = (some blob, blobs)) :
    Past.blobs (.displayed artifact answer :: past) = blobs ∧
      Past.told (.displayed artifact answer :: past) = .navigate blob.url.toList :: past.told := by
  simp only [Past.blobs, Past.told, Happening.effect, h]
  exact ⟨trivial, rfl⟩

/-- Emptying a slot tells that nothing is shown, if something was. -/
theorem Agrees.emptied (h : Agrees slot past) :
    Agrees .empty (slot.emptying ++ past) ∧
      Past.told (slot.emptying ++ past) = (slot.live.toList.map fun _ => .closed) ++ past.told := by
  unfold Slot.emptying
  unfold Agrees at h
  cases hl : slot.live with
  | none =>
    rw [hl] at h
    exact ⟨h, rfl⟩
  | some artifact =>
    rw [hl] at h
    obtain ⟨given, document, hblobs, rfl, hoffered, -⟩ := h
    have hrevoke : past.blobs.revoke (artifactOf (.nth given document)).id =
        (true, .bare given) := hblobs ▸ Blobs.revoke_sole given document
    obtain ⟨hbare, htold⟩ := Past.released_eq hrevoke
    refine ⟨⟨⟨given, hbare⟩, .inr ⟨fun he => ?_, congrArg List.head? htold⟩⟩, htold⟩
    rw [show past.offered = [] from he] at hoffered
    cases hoffered

/-- What is made of a document is the next blob. It can be made active, and is the only one once
the blob of the slot is revoked. -/
theorem Agrees.next (h : Agrees slot past) (document : String) :
    ∃ blobs, (past.blobs.insert document).2.activate (past.blobs.insert document).1.id =
        (some (past.blobs.insert document).1, blobs) ∧
      match slot.live with
      | none => blobs = .sole (past.blobs.given + 1) document
      | some artifact => blobs.revoke artifact.id =
          (false, .sole (past.blobs.given + 1) document) := by
  unfold Agrees at h
  cases hl : slot.live with
  | none =>
    rw [hl] at h
    obtain ⟨⟨given, hblobs⟩, -⟩ := h
    rw [hblobs]
    exact ⟨_, Blobs.activate_insert_bare given document, rfl⟩
  | some artifact =>
    rw [hl] at h
    obtain ⟨given, old, hblobs, rfl, -⟩ := h
    rw [hblobs]
    exact ⟨_, Blobs.activate_insert_sole given old document, Blobs.revoke_pair given old document⟩

/-- Installing a document makes it the one blob, and tells its address. -/
theorem Agrees.installed (h : Agrees slot past)
    (hi : Installs past slot document answer slot' past') (ha : past'.Answered) :
    ∃ artifact, answer = .ok artifact ∧ slot' = ⟨some artifact⟩ ∧ Agrees slot' past' ∧
      past'.told = .navigate artifact.location.toList :: past.told := by
  obtain ⟨blobs, hactivate, hsole⟩ := h.next document
  cases hi with
  | shown artifact =>
    have hmade := ha.of_suffix (List.suffix_append slot.emptying _)
    obtain rfl : artifact = artifactOf (past.blobs.insert document).1 :=
      Except.ok.inj hmade.2.1
    have hactivate : (Past.blobs (.created document
        (.ok (artifactOf (past.blobs.insert document).1)) :: past)).activate
        (artifactOf (past.blobs.insert document).1).id =
          (some (past.blobs.insert document).1, blobs) := hactivate
    obtain ⟨hblobs, htold⟩ := Past.displayed_eq (.ok ()) hactivate
    refine ⟨_, rfl, rfl, ?_⟩
    unfold Slot.emptying
    cases hl : slot.live with
    | none =>
      rw [hl] at hsole
      exact ⟨⟨_, document, hblobs.trans hsole, rfl, rfl, congrArg List.head? htold⟩, htold⟩
    | some old =>
      rw [hl] at hsole
      obtain ⟨hblobs, hsame⟩ := Past.released_eq (hblobs ▸ hsole)
      have htold := hsame.trans htold
      exact ⟨⟨_, document, hblobs, rfl, rfl, congrArg List.head? htold⟩, htold⟩
  | unmade e =>
    have hmade := ha.of_suffix (List.suffix_append slot.emptying _)
    exact absurd hmade.1 nofun
  | unshown artifact e =>
    have hmade := ha.of_suffix (List.suffix_append slot.emptying _)
    obtain rfl : artifact = artifactOf (past.blobs.insert document).1 :=
      Except.ok.inj hmade.2.2.1
    -- what is made can be shown
    have hshown : false = ((past.blobs.insert document).2.activate
        (past.blobs.insert document).1.id).1.isSome := hmade.2.1
    rw [hactivate] at hshown
    cases hshown

theorem Installs.suffix (hi : Installs past slot document answer slot' past') : past <:+ past' := by
  cases hi with
  | shown artifact =>
    exact ((List.suffix_cons _ _).trans (List.suffix_cons _ _)).trans (List.suffix_append _ _)
  | unmade e => exact (List.suffix_cons _ _).trans (List.suffix_append _ _)
  | unshown artifact e =>
    exact (((List.suffix_cons _ _).trans (List.suffix_cons _ _)).trans
      (List.suffix_cons _ _)).trans (List.suffix_append _ _)

/-- What a cycle tells: the address of what it installs, if it does. -/
theorem Agrees.cycled (h : Agrees s.slot past) {outcome : Outcome}
    (hc : Cycles engine s past outcome slot past') (ha : past'.Answered) :
    Agrees slot past' ∧
      ((slot = s.slot ∧ past'.offered = past.offered ∧ past'.told = past.told) ∨
        ∃ document artifact, past'.offered = document :: past.offered ∧
          slot.live = some artifact ∧
          past'.told = .navigate artifact.location.toList :: past.told) := by
  cases hc with
  | skipped ht => exact ⟨h, .inl ⟨rfl, rfl, rfl⟩⟩
  | shown text artifact slot past' ht hi =>
    have hread : Agrees s.slot (.read (some text) :: past) := h
    obtain ⟨artifact', -, rfl, hagrees, htold⟩ := hread.installed hi ha
    exact ⟨hagrees, .inr ⟨_, artifact', hi.offered_eq, rfl, htold⟩⟩
  | failed text e slot past' ht hi =>
    -- the surface of blobs does not fail
    have hread : Agrees s.slot (.read (some text) :: past) := h
    obtain ⟨artifact, he, -⟩ := hread.installed hi ha
    cases he

theorem Cycles.suffix {outcome : Outcome} (hc : Cycles engine s past outcome slot past') :
    past <:+ past' := by
  cases hc with
  | skipped ht => exact List.suffix_cons _ _
  | shown text artifact slot past' ht hi => exact (List.suffix_cons _ _).trans hi.suffix
  | failed text e slot past' ht hi => exact (List.suffix_cons _ _).trans hi.suffix

theorem Moves.suffix {step : Step} (hm : Moves engine s past step s' past') : past <:+ past' := by
  cases hm with
  | edited | notified | configured => exact List.suffix_cons _ _
  | waited | ignored => exact List.suffix_rfl
  | polled now deadline outcome slot past' hs hd hc => exact hc.suffix
  | activated now outcome slot past' hs hc => exact hc.suffix
  | closed => exact List.suffix_append _ _

/-- What a step tells: that nothing is shown any more if it closes the session and something was,
the address of what is installed if it runs a cycle that installs, and else nothing. -/
theorem Agrees.moved (h : Agrees s.slot past) {step : Step}
    (hm : Moves engine s past step s' past') (ha : past'.Answered) :
    Agrees s'.slot past' ∧
      if step = .close then
        s'.slot.live = none ∧ past'.offered = past.offered ∧
          past'.told = (s.slot.live.toList.map fun _ => .closed) ++ past.told
      else
        (s'.slot = s.slot ∧ past'.offered = past.offered ∧ past'.told = past.told) ∨
          ∃ document artifact, past'.offered = document :: past.offered ∧
            s'.slot.live = some artifact ∧
            past'.told = .navigate artifact.location.toList :: past.told := by
  cases hm with
  | edited | notified | configured | waited | ignored =>
    rw [if_neg nofun]
    exact ⟨h, .inl ⟨rfl, rfl, rfl⟩⟩
  | polled now deadline outcome slot past' hs hd hc =>
    rw [if_neg nofun]
    exact h.cycled hc ha
  | activated now outcome slot past' hs hc =>
    rw [if_neg nofun]
    exact h.cycled hc ha
  | closed =>
    rw [if_pos rfl]
    exact ⟨h.emptied.1, rfl, view_emptying Past.offered (fun _ _ => rfl) _ _, h.emptied.2⟩

/-- What holds of a session on blobs and its record. -/
structure Presents (engine : Engine) (s : Session) (past : Past) : Prop where
  guard : s.guard = past.guard
  offered : past.offered = past.rendered engine
  agrees : past.Answered → Agrees s.slot past

theorem Presents.opened (engine : Engine) (settings : Settings) (guard : LoopGuard)
    (text : Option String) :
    Presents engine (Session.opened settings guard) [.opened settings guard text] :=
  ⟨rfl, rfl, fun _ => ⟨⟨0, rfl⟩, .inl ⟨rfl, rfl⟩⟩⟩

theorem Presents.moves (h : Presents engine s past) {step : Step}
    (hm : Moves engine s past step s' past') : Presents engine s' past' := by
  have hagrees : past'.Answered → Agrees s'.slot past' := fun ha =>
    ((h.agrees (ha.of_suffix hm.suffix)).moved hm ha).1
  have hcycle : ∀ outcome slot, Cycles engine s past outcome slot past' →
      s.guard = past'.guard ∧ past'.offered = past'.rendered engine :=
    fun outcome slot hc => by
      rw [hc.view_eq Past.guard (fun _ _ => rfl) (fun _ _ _ => rfl) (fun _ _ _ => rfl)
        fun _ => rfl]
      exact ⟨h.guard, hc.offered_eq h.guard h.offered⟩
  cases hm with
  | edited | notified | waited | ignored => exact ⟨h.guard, h.offered, hagrees⟩
  | configured settings guard hg => exact ⟨rfl, h.offered, hagrees⟩
  | polled now deadline outcome slot past' hs hd hc =>
    exact ⟨(hcycle _ _ hc).1, (hcycle _ _ hc).2, hagrees⟩
  | activated now outcome slot past' hs hc =>
    exact ⟨(hcycle _ _ hc).1, (hcycle _ _ hc).2, hagrees⟩
  | closed =>
    refine ⟨?_, ?_, hagrees⟩
    · rw [view_emptying Past.guard fun _ _ => rfl]
      exact h.guard
    · rw [view_emptying Past.offered fun _ _ => rfl, h.offered]
      exact (view_emptying (Past.rendered engine) (fun _ _ => rfl) _ _).symm

end

/-! ## The views -/

/-- A plain request for what is under a path, from one who has nothing yet. -/
structure Asks (r : Request) (path : List Char) : Prop where
  method : r.method = "GET"
  path : r.path = path
  fresh : r.header? "if-none-match" = none

section

variable {r : Request}

theorem Asks.isAnswered {path : List Char} (h : Asks r path) : r.isAnswered = true := by
  rw [Request.isAnswered, h.method]
  rfl

theorem Asks.isHead {path : List Char} (h : Asks r path) : r.isHead = false := by
  rw [Request.isHead, h.method]
  rfl

theorem respond_root (site : Site) (h : Asks r "/".toList) :
    site.respond false r = .shell site := by
  rw [Site.respond, if_neg Bool.false_ne_true, if_pos h.isAnswered, Site.answerAt,
    if_pos (.inl h.path)]

/-- Under the address of a number is its blob. -/
theorem respond_urlOf (site : Site) {id : Nat} (h : Asks r (Blob.urlOf id).toList) :
    site.respond false r =
      match if id < Blob.idLimit then site.blobs.get? id else none with
      | some b => .blob r b
      | none => .notFound :=
  Server.respond_of_path site h.isAnswered h.path

theorem blob_of_asks {path : List Char} (h : Asks r path) (b : Blob) :
    (Response.blob r b).status = 200 ∧ (Response.blob r b).data = b.body := by
  rw [Response.blob, h.fresh, if_neg nofun, h.isHead]
  exact ⟨rfl, rfl⟩

end

/-- The views of an artifact that holds a document, whatever else a site has to give. -/
structure Shown (served : Served κ) (artifact : Artifact) (document : String) : Prop where
  /-- The shell page frames its address. -/
  shell : ∀ title port r, Asks r "/".toList →
    ((Site.mk title port served.blobs).respond false r).status = 200 ∧
      ((Site.mk title port served.blobs).respond false r).data =
        Page.framing title artifact.location port
  /-- Under its address is the document. -/
  document : ∀ title port r, Asks r artifact.location.toList →
    ((Site.mk title port served.blobs).respond false r).status = 200 ∧
      ((Site.mk title port served.blobs).respond false r).data = document
  /-- Under the addresses of other numbers there is nothing. -/
  others : ∀ title port r id, Asks r (Blob.urlOf id).toList → id ≠ artifact.id →
    ((Site.mk title port served.blobs).respond false r).status = 404
  last : served.hub.last = some (.navigate artifact.location.toList)

/-- The views where nothing is live. -/
structure Blank (served : Served κ) : Prop where
  /-- The shell page frames no address. -/
  shell : ∀ title port r, Asks r "/".toList →
    ((Site.mk title port served.blobs).respond false r).status = 200 ∧
      ((Site.mk title port served.blobs).respond false r).data =
        Page.framing title "about:blank" port
  /-- Under the addresses of all numbers there is nothing. -/
  others : ∀ title port r id, Asks r (Blob.urlOf id).toList →
    ((Site.mk title port served.blobs).respond false r).status = 404

section

variable {served : Served κ} {given : Nat} {document : String}

theorem shown_of_sole (hblobs : served.blobs = .sole given document)
    (hlast : served.hub.last =
      some (.navigate (artifactOf (.nth given document)).location.toList)) :
    Shown served (artifactOf (.nth given document)) document where
  shell title port r h := by
    rw [respond_root _ h, Response.shell, hblobs]
    refine ⟨rfl, (Page.shell_eq title _ port).trans ?_⟩
    exact congrArg (Page.framing title · port) (Blob.escapeAttribute_urlOf _)
  document title port r h := by
    have hid : (Blob.nth given document).id < Blob.idLimit := Nat.mod_lt given (by decide)
    rw [respond_urlOf _ h, if_pos hid, hblobs, Blobs.get?_sole, if_pos rfl]
    exact blob_of_asks h _
  others title port r id h hne := by
    rw [respond_urlOf _ h, hblobs, Blobs.get?_sole,
      if_neg (show ¬ (Blob.nth given document).id = id from fun he => hne he.symm), ite_self]
    rfl
  last := hlast

theorem escapeAttribute_blank : Text.escapeAttribute "about:blank" = "about:blank" := rfl

theorem blank_of_bare (hblobs : served.blobs = .bare given) : Blank served where
  shell title port r h := by
    rw [respond_root _ h, Response.shell, hblobs]
    refine ⟨rfl, (Page.shell_eq title _ port).trans ?_⟩
    exact congrArg (Page.framing title · port) escapeAttribute_blank
  others title port r id h := by
    rw [respond_urlOf _ h, hblobs, show (Blobs.bare given).get? id = none from rfl, ite_self]
    rfl

end

/-! ## Runs -/

/-- A session on blobs behind a run, with its record and with notes of what the hub was told and of
what it sent. -/
structure Run (κ : Type) where
  session : Session
  past : Past
  served : Served κ
  /-- Latest first. -/
  told : List Message
  sent : Reload.Past κ
  sandbox : Sandbox

/-- A run of a session, from an empty store and a hub that has been told nothing, with notes. -/
def Run.play (engine : Engine) (wire : Wire (StateM Sandbox) κ) (clients : List κ)
    (settings : Settings) (text : Option String) (steps : List Step) (w : Sandbox) : Run κ :=
  let (((s, past), served), w) := Session.play engine (Served.surfaceTo (Hub.noting wire)) settings
    text steps [] ⟨.empty, ⟨⟨clients, none⟩, [], []⟩⟩ w
  ⟨s, past, ⟨served.blobs, served.hub.hub⟩, served.hub.told, served.hub.sent, w⟩

/-- A step behind a run. -/
theorem Session.play_concat {σ : Type} (engine : Engine)
    (surface : Surface (StateT σ (StateM Sandbox))) (settings : Settings) (text : Option String)
    (steps : List Step) (step : Step) :
    Session.play engine surface settings text (steps ++ [step]) =
      Session.play engine surface settings text steps >>= fun s => s.take engine surface step := by
  have htake : ∀ s : Session, s.takeAll engine surface (steps ++ [step]) =
      s.takeAll engine surface steps >>= fun s => s.take engine surface step := by
    induction steps with
    | nil => exact fun s => bind_pure _
    | cons first steps ih =>
      intro s
      simp only [List.cons_append, Session.takeAll, bind_assoc, ih]
  simp only [Session.play, htake, bind_assoc]

section

variable (engine : Engine) (wire : Wire (StateM Sandbox) κ) (clients : List κ)
  (settings : Settings) (text : Option String) (steps : List Step) (w : Sandbox)

theorem Run.follows :
    let run := Run.play engine wire clients settings text steps w
    Session.play engine (Served.surface wire) settings text steps []
        ⟨.empty, ⟨clients, none⟩⟩ w = (((run.session, run.past), run.served), run.sandbox) ∧
      run.served.blobs = run.past.blobs ∧ run.told = run.past.told ∧
      run.served.hub.last = run.past.told.head? ∧
      (∀ [DecidableEq κ], AllSent clients run.served.hub.clients run.sent run.told) ∧
      run.past.Answered := by
  have hfollows [DecidableEq κ] :=
    (follows_noting wire clients).play engine settings text steps [] _ _ w (.start clients)
  obtain ⟨hanswer, hsandbox, hnotes, hblobs, htold, hlast, -, hans⟩ :=
    @hfollows fun a b => Classical.propDecidable (a = b)
  rw [hnotes] at hblobs hlast
  refine ⟨Prod.ext (Prod.ext hanswer hnotes) hsandbox, hblobs, htold, hlast, ?_, hans⟩
  intro _
  obtain ⟨-, -, -, -, -, -, hsent, -⟩ := hfollows
  rwa [hnotes, ← htold] at hsent

theorem Run.presents :
    let run := Run.play engine wire clients settings text steps w
    Presents engine run.session run.past := by
  intro run
  have hleads : Leads (Session.play engine (Served.surfaceTo (Hub.noting wire)) settings text steps)
      [] run.session run.past := ⟨_, w, rfl⟩
  obtain ⟨guard, -, hplay⟩ := hleads.of_play
  exact Leads.takeAll_induction (motive := Presents engine)
    (fun _ _ _ _ _ _ h hm => h.moves hm) (.opened engine settings guard text) hplay

theorem Run.moves (step : Step) :
    let run := Run.play engine wire clients settings text steps w
    let next := Run.play engine wire clients settings text (steps ++ [step]) w
    Moves engine run.session run.past step next.session next.past := by
  intro run next
  have hleads : Leads (run.session.take engine (Served.surfaceTo (Hub.noting wire)) step) run.past
      next.session next.past := by
    refine ⟨⟨run.served.blobs, ⟨run.served.hub, run.told, run.sent⟩⟩, run.sandbox, ?_⟩
    have hnext : next = Run.play engine wire clients settings text (steps ++ [step]) w := rfl
    unfold Run.play at hnext
    rw [Session.play_concat] at hnext
    rw [hnext]
    rfl
  exact hleads.of_take

/-- **The views agree.** Behind every run of a session on blobs, whatever its clients do:

1. Noting what the hub is told and what it sends changes nothing else.
2. If an artifact is live, the shell page frames its address, under its address is what the text of
   the last cycle with a document renders to, under other addresses there is nothing, and the hub
   remembers its address. If none is live, the shell page frames nothing, there is nothing under any
   address, and the hub remembers nothing or, if something was rendered, that nothing is shown.
3. A further step that closes the session tells the hub that nothing is shown, if something was. Any
   other step renders nothing and tells nothing, or it renders one document and tells the hub once,
   the address of what is then live.
4. Every client that is left was sent exactly what the hub was told, in order; the others could not
   be told something. -/
theorem views_agree :
    let run := Run.play engine wire clients settings text steps w
    Session.play engine (Served.surface wire) settings text steps []
        ⟨.empty, ⟨clients, none⟩⟩ w = (((run.session, run.past), run.served), run.sandbox) ∧
    (match run.session.slot.live with
      | some artifact => ∃ document, (run.past.rendered engine).head? = some document ∧
          Shown run.served artifact document
      | none => Blank run.served ∧
          (run.past.rendered engine = [] ∧ run.served.hub.last = none ∨
            run.past.rendered engine ≠ [] ∧ run.served.hub.last = some .closed)) ∧
    (∀ step,
      let next := Run.play engine wire clients settings text (steps ++ [step]) w
      if step = .close then
        next.session.slot.live = none ∧
          next.past.rendered engine = run.past.rendered engine ∧
          next.told = (run.session.slot.live.toList.map fun _ => .closed) ++ run.told
      else
        (next.session.slot = run.session.slot ∧
          next.past.rendered engine = run.past.rendered engine ∧ next.told = run.told) ∨
        ∃ document artifact,
          next.past.rendered engine = document :: run.past.rendered engine ∧
          next.session.slot.live = some artifact ∧
          next.told = .navigate artifact.location.toList :: run.told) ∧
    ∀ [DecidableEq κ], AllSent clients run.served.hub.clients run.sent run.told := by
  intro run
  obtain ⟨hrun, hblobs, htold, hlast, hsent, hans⟩ :=
    Run.follows engine wire clients settings text steps w
  have hpresents := Run.presents engine wire clients settings text steps w
  have hagrees := hpresents.agrees hans
  refine ⟨hrun, ?_, fun step => ?_, hsent⟩
  · unfold Agrees at hagrees
    rw [hpresents.offered, ← hblobs, ← hlast] at hagrees
    cases hl : run.session.slot.live with
    | none =>
      rw [hl] at hagrees
      obtain ⟨⟨given, hbare⟩, htold⟩ := hagrees
      refine ⟨blank_of_bare hbare, htold.imp (fun h => ⟨h.1, ?_⟩) id⟩
      rw [hlast, h.2]
      rfl
    | some artifact =>
      rw [hl] at hagrees
      obtain ⟨given, document, hsole, rfl, hrendered, htold⟩ := hagrees
      exact ⟨document, hrendered, shown_of_sole hsole htold⟩
  · intro next
    obtain ⟨-, -, htold', -, -, hans'⟩ :=
      Run.follows engine wire clients settings text (steps ++ [step]) w
    have hmoved := (hagrees.moved (Run.moves engine wire clients settings text steps w step)
      hans').2
    have hpresents' := Run.presents engine wire clients settings text (steps ++ [step]) w
    rw [hpresents.offered, hpresents'.offered, ← htold, ← htold'] at hmoved
    exact hmoved

end

/-- Two cycles tell two addresses, closing tells that nothing is shown, and opening a session that
is closed tells nothing. -/
example : (Run.play (fun _ _ => .ok none) (⟨nofun, nofun⟩ : Wire _ Empty) [] .default (some "a")
    [.activate 0, .poll 1, .activate 2, .close, .activate 3] .empty).told =
      [.closed, .navigate "/blob/2".toList, .navigate "/blob/1".toList] := by
  decide

end LivePreview.Preview
