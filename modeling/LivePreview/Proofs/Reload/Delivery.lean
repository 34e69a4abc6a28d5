import LivePreview.Proofs.Recording
import LivePreview.Reload.Hub

/-!
# What clients are told

Whatever sending a text comes to, the clients of a hub have been told all they are to be told
(`clients_told_everything`).

1. The steps of a hub say what a client is to be told (`owed`). The record says what it was sent
   (`Past.told`) and whether it is gone (`Past.isGone`).
2. `Greets` and `Sends` list what a greeting and a broadcast can put on the record, one client after
   the other. `Misses` says what a client has still to be sent; each sending takes one text off.
3. Between steps no client misses anything (`Delivers`).
4. Clients that know of no record can be given one, which changes nothing else
   (`Hub.broadcast_sends`).
-/

namespace LivePreview.Reload

open Recording (Leads)

/-- The text that a message is sent as. -/
def Message.encoded (message : Message) : String := String.ofList message.toJson

/-! ## Steps -/

/-- What is done with a hub. -/
inductive Step (κ : Type) where
  | connect (client : κ)
  | broadcast (message : Message)
  | closeAll

section

variable {κ : Type}

/-- The clients that have come. -/
def comers : List (Step κ) → List κ
  | [] => []
  | .connect client :: before => client :: comers before
  | _ :: before => comers before

/-- The message that was broadcast last. -/
def remembered : List (Step κ) → Option Message
  | [] => none
  | .broadcast message :: _ => some message
  | _ :: before => remembered before

/-- What a client is to be told: whom it is connected to, the message that was remembered when it
came, and every message from then on. -/
def owed [DecidableEq κ] (client : κ) : List (Step κ) → List Message
  | [] => []
  | .connect comer :: before =>
    if comer = client then Message.greeting :: (remembered before).toList else owed client before
  | .broadcast message :: before => owed client before ++ [message]
  | .closeAll :: before => owed client before

end

/-! ## The record -/

/-- What a hub does to a client. -/
inductive Happening (κ : Type) where
  | sent (client : κ) (text : String) (answer : Except String Unit)
  | closed (client : κ)

/-- What has happened so far, latest first. -/
abbrev Past (κ : Type) := List (Happening κ)

namespace Past

variable {κ : Type} [DecidableEq κ]

/-- The texts that a client was sent. -/
def told (client : κ) : Past κ → List String
  | [] => []
  | .sent other text (.ok _) :: past =>
    if other = client then told client past ++ [text] else told client past
  | _ :: past => told client past

/-- A text could not be sent to a client, or its connection was ended. -/
def isGone (client : κ) : Past κ → Bool
  | [] => false
  | .sent other _ (.error _) :: past | .closed other :: past =>
    other == client || isGone client past
  | _ :: past => isGone client past

/-- Nothing was sent to a client that was gone. -/
def Quiet : Past κ → Prop
  | [] => True
  | .sent client _ _ :: past => isGone client past = false ∧ Quiet past
  | .closed _ :: past => Quiet past

end Past

variable {κ σ : Type}

/-- Clients that are reached in some way, with a record. -/
def Wire.recorded (wire : Wire (StateT σ (StateM Sandbox)) κ) :
    Wire (Recording (Happening κ) σ) κ where
  send client text := do
    let answer ← (wire.send client text : StateT σ (StateM Sandbox) _)
    Recording.note (.sent client text answer)
    return answer
  close client := do
    (wire.close client : StateT σ (StateM Sandbox) _)
    Recording.note (.closed client)

namespace Hub

/-- A step of a hub, with a record. -/
def take (wire : Wire (StateT σ (StateM Sandbox)) κ) (h : Hub κ) :
    Step κ → Recording (Happening κ) σ (Hub κ)
  | .connect client => h.connect wire.recorded client
  | .broadcast message => h.broadcast wire.recorded message
  | .closeAll => h.closeAll wire.recorded

/-- The hub behind some steps, latest first, with a record. -/
def behind (wire : Wire (StateT σ (StateM Sandbox)) κ) :
    List (Step κ) → Recording (Happening κ) σ (Hub κ)
  | [] => return empty
  | step :: before => do
    let h ← behind wire before
    h.take wire step

end Hub

/-! ## What a step puts on the record -/

/-- What can come of greeting a client with some messages. -/
inductive Greets (client : κ) : List Message → Past κ → Except String Unit → Past κ → Prop where
  | done {past : Past κ} : Greets client [] past (.ok ()) past
  | sent (message : Message) (messages : List Message) (past : Past κ) (answer : Except String Unit)
      (past' : Past κ)
      (h : Greets client messages (.sent client message.encoded (.ok ()) :: past) answer past') :
      Greets client (message :: messages) past answer past'
  | failed (message : Message) (messages : List Message) (past : Past κ) (e : String) :
      Greets client (message :: messages) past (.error e)
        (.sent client message.encoded (.error e) :: past)

/-- What can come of sending a text to some clients: those that could be told, and the record. -/
inductive Sends (text : String) : List κ → Past κ → List κ → Past κ → Prop where
  | done {past : Past κ} : Sends text [] past [] past
  | told (client : κ) (clients told : List κ) (past past' : Past κ)
      (h : Sends text clients (.sent client text (.ok ()) :: past) told past') :
      Sends text (client :: clients) past (client :: told) past'
  | dropped (client : κ) (clients told : List κ) (past past' : Past κ) (e : String)
      (h : Sends text clients (.sent client text (.error e) :: past) told past') :
      Sends text (client :: clients) past told past'

section

variable {wire : Wire (StateT σ (StateM Sandbox)) κ} {client : κ} {text : String}
  {past past' : Past κ} {h h' : Hub κ}

theorem leads_send {answer : Except String Unit}
    (hl : Leads (wire.recorded.send client text) past answer past') :
    past' = .sent client text answer :: past := by
  obtain ⟨a, between, h₁, hl⟩ := hl.of_bind
  obtain ⟨u, between', h₂, hl⟩ := hl.of_bind
  obtain ⟨rfl, rfl⟩ := hl.of_pure
  rw [h₂.of_note, h₁.of_lift]

theorem leads_close {u : Unit} (hl : Leads (wire.recorded.close client) past u past') :
    past' = [.closed client] ++ past := by
  obtain ⟨a, between, h₁, hl⟩ := hl.of_bind
  rw [hl.of_note, h₁.of_lift]
  rfl

theorem leads_greet {messages : List Message} {answer : Except String Unit}
    (hl : Leads (Hub.greet wire.recorded client messages) past answer past') :
    Greets client messages past answer past' := by
  induction messages generalizing past with
  | nil =>
    obtain ⟨rfl, rfl⟩ := hl.of_pure
    exact .done
  | cons message messages ih =>
    obtain ⟨a, between, h₁, hl⟩ := hl.of_bind
    obtain rfl := leads_send h₁
    cases a with
    | ok u => exact .sent _ _ _ _ _ (ih hl)
    | error e =>
      obtain ⟨rfl, rfl⟩ := hl.of_pure
      exact .failed _ _ _ e

theorem leads_sendAll {clients told : List κ}
    (hl : Leads (Hub.sendAll wire.recorded text clients) past told past') :
    Sends text clients past told past' := by
  induction clients generalizing past told with
  | nil =>
    obtain ⟨rfl, rfl⟩ := hl.of_pure
    exact .done
  | cons client clients ih =>
    obtain ⟨a, between, h₁, hl⟩ := hl.of_bind
    obtain rfl := leads_send h₁
    cases a with
    | ok u =>
      obtain ⟨told, mid, h₂, hl⟩ := hl.of_bind
      obtain ⟨rfl, rfl⟩ := hl.of_pure
      exact .told _ _ _ _ _ (ih h₂)
    | error e =>
      obtain ⟨u, mid, h₂, hl⟩ := hl.of_bind
      obtain rfl := h₂.of_say
      exact .dropped _ _ _ _ _ e (ih hl)

/-- What a connection leads to. -/
theorem leads_connect (hl : Leads (h.connect wire.recorded client) past h' past') :
    (Greets client h.welcome past (.ok ()) past' ∧ h' = ⟨h.clients ++ [client], h.last⟩) ∨
      ∃ e, Greets client h.welcome past (.error e) past' ∧ h' = h := by
  obtain ⟨answer, between, h₁, hl⟩ := hl.of_bind
  cases answer with
  | ok u =>
    obtain ⟨u', mid, h₂, hl⟩ := hl.of_bind
    obtain ⟨rfl, rfl⟩ := hl.of_pure
    exact .inl ⟨h₂.of_say ▸ leads_greet h₁, rfl⟩
  | error e =>
    obtain ⟨u', mid, h₂, hl⟩ := hl.of_bind
    obtain ⟨rfl, rfl⟩ := hl.of_pure
    exact .inr ⟨e, h₂.of_say ▸ leads_greet h₁, rfl⟩

/-- What a broadcast leads to. -/
theorem leads_broadcast {message : Message}
    (hl : Leads (h.broadcast wire.recorded message) past h' past') :
    Sends message.encoded h.clients past h'.clients past' ∧ h'.last = some message := by
  unfold Hub.broadcast at hl
  by_cases hc : h.clients.isEmpty = true
  · rw [if_pos hc] at hl
    obtain ⟨u, mid, h₁, hl⟩ := hl.of_bind
    obtain ⟨rfl, rfl⟩ := hl.of_pure
    rw [h₁.of_say, List.isEmpty_iff.mp hc]
    exact ⟨.done, rfl⟩
  · rw [if_neg hc] at hl
    obtain ⟨told, mid, h₁, hl⟩ := hl.of_bind
    obtain ⟨u, mid', h₂, hl⟩ := hl.of_bind
    obtain ⟨rfl, rfl⟩ := hl.of_pure
    exact ⟨h₂.of_say ▸ leads_sendAll h₁, rfl⟩

/-- What ending all connections leads to. -/
theorem leads_closeAll (hl : Leads (h.closeAll wire.recorded) past h' past') :
    past' = h.clients.reverse.map .closed ++ past ∧ h' = ⟨[], h.last⟩ := by
  obtain ⟨u, mid, h₁, hl⟩ := hl.of_bind
  obtain ⟨rfl, rfl⟩ := hl.of_pure
  rw [List.map_eq_flatMap]
  exact ⟨h₁.of_forM fun _ _ _ _ => leads_close, rfl⟩

end

/-! ## Notes of what is sent -/

/-- The same clients, for actions that keep a record and have no other state. -/
def Wire.noted (wire : Wire (StateM Sandbox) κ) : Wire (Recording (Happening κ) Unit) κ :=
  Wire.recorded ⟨fun client text => StateT.lift (wire.send client text),
    fun client => StateT.lift (wire.close client)⟩

namespace Hub

section

variable (wire : Wire (StateM Sandbox) κ) (past : Past κ) (w : Sandbox)

theorem noted_send (client : κ) (text : String) :
    wire.noted.send client text past () w =
      ((((wire.send client text w).1, .sent client text (wire.send client text w).1 :: past), ()),
        (wire.send client text w).2) := rfl

theorem sendAll_cons_of_ok {client : κ} {text : String} {w' : Sandbox} {u : Unit}
    (h : wire.send client text w = (.ok u, w')) (clients : List κ) :
    sendAll wire text (client :: clients) w =
      (client :: (sendAll wire text clients w').1, (sendAll wire text clients w').2) := by
  show (wire.send client text >>= _) w = _
  simp only [bind, StateT.bind, h]
  rfl

theorem sendAll_cons_of_error {client : κ} {text : String} {w' : Sandbox} {e : String}
    (h : wire.send client text w = (.error e, w')) (clients : List κ) :
    sendAll wire text (client :: clients) w = sendAll wire text clients
      (w'.say (.note ⟨topic, "client dropped: " ++ e, true⟩)) := by
  show (wire.send client text >>= _) w = _
  simp only [bind, StateT.bind, h]
  rfl

/-- Keeping a record changes nothing of what sending comes to. -/
theorem sendAll_noted (text : String) (clients : List κ) (past : Past κ) (w : Sandbox) :
    ∃ past', sendAll wire.noted text clients past () w =
      ((((sendAll wire text clients w).1, past'), ()), (sendAll wire text clients w).2) := by
  induction clients generalizing past w with
  | nil => exact ⟨past, rfl⟩
  | cons client clients ih =>
    cases hanswer : wire.send client text w with
    | mk answer w' =>
      cases answer with
      | ok u =>
        obtain ⟨past', hrest⟩ := ih (.sent client text (.ok u) :: past) w'
        refine ⟨past', ?_⟩
        rw [sendAll_cons_of_ok wire w hanswer]
        show (wire.noted.send client text >>= _) past () w = _
        simp only [bind, StateT.bind, noted_send, hanswer]
        rw [hrest]
        rfl
      | error e =>
        obtain ⟨past', hrest⟩ := ih (.sent client text (.error e) :: past)
          (w'.say (.note ⟨topic, "client dropped: " ++ e, true⟩))
        refine ⟨past', ?_⟩
        rw [sendAll_cons_of_error wire w hanswer, ← hrest]
        show (wire.noted.send client text >>= _) past () w = _
        simp only [bind, StateT.bind, noted_send, hanswer]
        rfl

theorem broadcast_noted (message : Message) (h : Hub κ) :
    ∃ past', h.broadcast wire.noted message past () w =
      ((((h.broadcast wire message w).1, past'), ()), (h.broadcast wire message w).2) := by
  unfold broadcast
  by_cases hc : h.clients.isEmpty = true
  · rw [if_pos hc, if_pos hc]
    exact ⟨past, rfl⟩
  · rw [if_neg hc, if_neg hc]
    obtain ⟨past', hsent⟩ := sendAll_noted wire (String.ofList message.toJson) h.clients past w
    refine ⟨past', ?_⟩
    simp only [bind, StateT.bind, hsent]
    rfl

end

end Hub

/-- What a broadcast sends can be noted: noting changes nothing else. -/
theorem Hub.broadcast_sends (wire : Wire (StateM Sandbox) κ) (message : Message) (h : Hub κ)
    (past : Past κ) (w : Sandbox) :
    ∃ past', h.broadcast wire.noted message past () w =
        ((((h.broadcast wire message w).1, past'), ()), (h.broadcast wire message w).2) ∧
      Sends message.encoded h.clients past (h.broadcast wire message w).1.clients past' ∧
      (h.broadcast wire message w).1.last = some message := by
  obtain ⟨past', hnoted⟩ := Hub.broadcast_noted wire past w message h
  obtain ⟨hsends, hlast⟩ := leads_broadcast ⟨(), w, congrArg (·.1.1) hnoted⟩
  exact ⟨past', hnoted, hsends, hlast⟩

/-- One who is gone stays so, and so is who could not be told. -/
theorem Sends.isGone [DecidableEq κ] {text : String} {clients told : List κ} {past past' : Past κ}
    (hs : Sends text clients past told past') :
    (∀ client, past.isGone client = true → past'.isGone client = true) ∧
      ∀ client ∈ clients, client ∉ told → past'.isGone client = true := by
  induction hs with
  | done => exact ⟨fun _ h => h, fun _ h => nomatch h⟩
  | told first clients told past past' _ ih =>
    refine ⟨ih.1, fun client hc hnot => ?_⟩
    obtain ⟨hne, hnot⟩ := not_or.mp fun h => hnot (List.mem_cons.mpr h)
    exact ih.2 client ((List.mem_cons.mp hc).resolve_left hne) hnot
  | dropped first clients told past past' e _ ih =>
    refine ⟨fun client h => ih.1 client ?_, fun client hc hnot => ?_⟩
    · rw [Past.isGone, h, Bool.or_true]
    · rcases List.mem_cons.mp hc with rfl | hc
      · exact ih.1 client (by rw [Past.isGone, beq_self_eq_true, Bool.true_or])
      · exact ih.2 client hc hnot

/-- Those of some clients, none twice, that could be told have been sent the text; the others have
been sent nothing. -/
theorem Sends.told_eq [DecidableEq κ] {text : String} {clients told : List κ}
    {past past' : Past κ} (hs : Sends text clients past told past') (hn : clients.Nodup) :
    told.Sublist clients ∧ (∀ other ∉ clients, past'.told other = past.told other) ∧
      ∀ client ∈ told, past'.told client = past.told client ++ [text] := by
  induction hs with
  | done => exact ⟨.refl _, fun _ _ => rfl, fun _ h => nomatch h⟩
  | told first clients told past past' _ ih =>
    obtain ⟨hfirst, hn⟩ := List.nodup_cons.mp hn
    obtain ⟨hsub, hothers, htold⟩ := ih hn
    refine ⟨hsub.cons_cons first, fun other hother => ?_, fun client hc => ?_⟩
    · obtain ⟨hne, hother⟩ := not_or.mp fun h => hother (List.mem_cons.mpr h)
      rw [hothers other hother, Past.told, if_neg (Ne.symm hne)]
    · rcases List.mem_cons.mp hc with rfl | hc
      · rw [hothers client hfirst, Past.told, if_pos rfl]
      · have hne : first ≠ client := fun he => hfirst (he ▸ hsub.subset hc)
        rw [htold client hc, Past.told, if_neg hne]
  | dropped first clients told past past' e _ ih =>
    obtain ⟨hfirst, hn⟩ := List.nodup_cons.mp hn
    obtain ⟨hsub, hothers, htold⟩ := ih hn
    exact ⟨hsub.cons first, fun other hother => hothers other fun h =>
      hother (List.mem_cons_of_mem _ h), htold⟩

/-! ## What clients miss -/

variable [DecidableEq κ]

/-- A client has come and is not gone. -/
def Present (before : List (Step κ)) (past : Past κ) (client : κ) : Prop :=
  client ∈ comers before ∧ past.isGone client = false

/-- The texts that a client has still to be sent. -/
def Misses (client : κ) (texts : List String) (before : List (Step κ)) (past : Past κ) : Prop :=
  past.told client ++ texts = (owed client before).map Message.encoded

/-- What a record says of clients that have not come or are gone. -/
structure Orderly (before : List (Step κ)) (past : Past κ) : Prop where
  quiet : past.Quiet
  stranger : ∀ client, client ∉ comers before → past.told client = [] ∧ past.isGone client = false

section

variable {before : List (Step κ)} {past past' : Past κ} {client other : κ} {text : String}
  {texts : List String} {answer : Except String Unit}

/-- Sending a text to one client does nothing to another. -/
theorem told_sent_of_ne (hne : other ≠ client) :
    Past.told client (.sent other text answer :: past) = past.told client ∧
      Past.isGone client (.sent other text answer :: past) = past.isGone client := by
  cases answer with
  | ok u => exact ⟨if_neg hne, rfl⟩
  | error e =>
    refine ⟨rfl, ?_⟩
    simp [Past.isGone, hne]

theorem Misses.sent (h : Misses client (text :: texts) before past) :
    Misses client texts before (.sent client text (.ok ()) :: past) := by
  unfold Misses at h ⊢
  rw [← h]
  simp [Past.told]

theorem Misses.sent_of_ne (h : Misses client texts before past) (hne : other ≠ client) :
    Misses client texts before (.sent other text answer :: past) := by
  unfold Misses at h ⊢
  rw [(told_sent_of_ne hne).1, h]

theorem Orderly.sent (h : Orderly before past) (hp : Present before past client) :
    Orderly before (.sent client text answer :: past) := by
  refine ⟨⟨hp.2, h.quiet⟩, fun other ho => ?_⟩
  have hne : client ≠ other := fun he => ho (he ▸ hp.1)
  rw [(told_sent_of_ne hne).1, (told_sent_of_ne hne).2]
  exact h.stranger other ho

theorem present_sent_ok :
    Present before (.sent client text (.ok ()) :: past) other ↔ Present before past other := Iff.rfl

theorem present_sent_error {e : String} :
    Present before (.sent client text (.error e) :: past) other ↔
      other ≠ client ∧ Present before past other := by
  unfold Present
  simp only [Past.isGone, Bool.or_eq_false_iff, beq_eq_false_iff_ne, ne_eq]
  constructor
  · rintro ⟨hc, hne, hg⟩
    exact ⟨fun he => hne he.symm, hc, hg⟩
  · rintro ⟨hne, hc, hg⟩
    exact ⟨hc, fun he => hne he.symm, hg⟩

end

section

variable {before : List (Step κ)} {past past' : Past κ} {client : κ}

/-- A greeting sends a newcomer all it misses, or the newcomer is gone; others are left alone. -/
theorem Greets.delivers {messages : List Message} {answer : Except String Unit}
    (hg : Greets client messages past answer past') (ho : Orderly before past)
    (hp : Present before past client)
    (hm : Misses client (messages.map Message.encoded) before past) :
    Orderly before past' ∧
      (∀ other ≠ client, (Present before past' other ↔ Present before past other) ∧
        ∀ texts, Misses other texts before past → Misses other texts before past') ∧
      (Present before past' client ↔ answer = .ok ()) ∧
      (answer = .ok () → Misses client [] before past') := by
  induction hg with
  | done =>
    exact ⟨ho, fun _ _ => ⟨Iff.rfl, fun _ h => h⟩, iff_of_true hp rfl, fun _ => hm⟩
  | sent message messages past answer past' _ ih =>
    obtain ⟨ho', hothers, hself⟩ := ih (ho.sent hp) (present_sent_ok.mpr hp) hm.sent
    refine ⟨ho', fun other hne => ?_, hself⟩
    obtain ⟨hpresent, hmisses⟩ := hothers other hne
    exact ⟨hpresent.trans present_sent_ok, fun texts h => hmisses texts (h.sent_of_ne hne.symm)⟩
  | failed message messages past e =>
    refine ⟨ho.sent hp, fun other hne => ⟨?_, fun texts h => h.sent_of_ne hne.symm⟩,
      iff_of_false (fun h => ?_) nofun, nofun⟩
    · rw [present_sent_error]
      exact and_iff_right hne
    · exact (present_sent_error.mp h).1 rfl

/-- Sending a text that all of some clients miss leaves those that could be told, who miss nothing
any more; the others are left alone. -/
theorem Sends.delivers {text : String} {clients told : List κ}
    (hs : Sends text clients past told past') (ho : Orderly before past) (hn : clients.Nodup)
    (hp : ∀ client ∈ clients, Present before past client)
    (hm : ∀ client ∈ clients, Misses client [text] before past) :
    Orderly before past' ∧ told.Sublist clients ∧
      (∀ other ∉ clients, (Present before past' other ↔ Present before past other) ∧
        ∀ texts, Misses other texts before past → Misses other texts before past') ∧
      ∀ client ∈ clients, (Present before past' client ↔ client ∈ told) ∧
        (client ∈ told → Misses client [] before past') := by
  -- The clients still to be sent the text are all there and miss just that. Sending it to the first
  -- leaves the others so, as none comes twice.
  induction hs with
  | done =>
    exact ⟨ho, List.Sublist.refl _, fun _ _ => ⟨Iff.rfl, fun _ h => h⟩, fun _ h => nomatch h⟩
  | told first clients told past past' _ ih =>
    obtain ⟨hfirst, hn⟩ := List.nodup_cons.mp hn
    have hne : ∀ client ∈ clients, first ≠ client := fun client hc he => hfirst (he ▸ hc)
    obtain ⟨ho', hsub, hothers, hclients⟩ := ih (ho.sent (hp first List.mem_cons_self)) hn
      (fun client hc => present_sent_ok.mpr (hp client (List.mem_cons_of_mem _ hc)))
      (fun client hc => (hm client (List.mem_cons_of_mem _ hc)).sent_of_ne (hne client hc))
    refine ⟨ho', hsub.cons_cons first, fun other hother => ?_, fun client hc => ?_⟩
    · obtain ⟨hne', hother⟩ := not_or.mp (fun h => hother (List.mem_cons.mpr h))
      obtain ⟨hpresent, hmisses⟩ := hothers other hother
      exact ⟨hpresent.trans present_sent_ok,
        fun texts h => hmisses texts (h.sent_of_ne (Ne.symm hne'))⟩
    · rcases List.mem_cons.mp hc with rfl | hc
      · obtain ⟨hpresent, hmisses⟩ := hothers client hfirst
        have hmember : client ∈ client :: told := List.mem_cons_self
        exact ⟨iff_of_true (hpresent.mpr (present_sent_ok.mpr (hp client hc))) hmember,
          fun _ => hmisses [] (hm client hc).sent⟩
      · obtain ⟨hpresent, hmisses⟩ := hclients client hc
        have hmember : client ∈ first :: told ↔ client ∈ told := by
          rw [List.mem_cons]
          exact or_iff_right (hne client hc).symm
        exact ⟨hpresent.trans hmember.symm, fun h => hmisses (hmember.mp h)⟩
  | dropped first clients told past past' e _ ih =>
    obtain ⟨hfirst, hn⟩ := List.nodup_cons.mp hn
    have hne : ∀ client ∈ clients, client ≠ first := fun client hc he => hfirst (he ▸ hc)
    obtain ⟨ho', hsub, hothers, hclients⟩ := ih (ho.sent (hp first List.mem_cons_self)) hn
      (fun client hc => present_sent_error.mpr
        ⟨hne client hc, hp client (List.mem_cons_of_mem _ hc)⟩)
      (fun client hc => (hm client (List.mem_cons_of_mem _ hc)).sent_of_ne (hne client hc).symm)
    refine ⟨ho', hsub.cons first, fun other hother => ?_, fun client hc => ?_⟩
    · obtain ⟨hne', hother⟩ := not_or.mp (fun h => hother (List.mem_cons.mpr h))
      obtain ⟨hpresent, hmisses⟩ := hothers other hother
      refine ⟨hpresent.trans ?_, fun texts h => hmisses texts (h.sent_of_ne (Ne.symm hne'))⟩
      rw [present_sent_error]
      exact and_iff_right hne'
    · rcases List.mem_cons.mp hc with rfl | hc
      · have hgone : ¬ Present before past' client := fun h =>
          (present_sent_error.mp ((hothers client hfirst).1.mp h)).1 rfl
        have hmember : client ∉ told := fun h => hfirst (hsub.subset h)
        exact ⟨iff_of_false hgone hmember, fun h => absurd h hmember⟩
      · exact hclients client hc

end

/-! ## Runs -/

/-- Between steps the hub remembers the last broadcast, its clients are those that have come and are
not gone, and none of them misses anything. -/
structure Delivers (before : List (Step κ)) (h : Hub κ) (past : Past κ) : Prop where
  orderly : Orderly before past
  last : h.last = remembered before
  nodup : h.clients.Nodup
  clients : ∀ client, client ∈ h.clients ↔ Present before past client
  told : ∀ client ∈ h.clients, Misses client [] before past

theorem Delivers.empty : Delivers ([] : List (Step κ)) Hub.empty [] where
  orderly := ⟨trivial, fun _ _ => ⟨rfl, rfl⟩⟩
  last := rfl
  nodup := List.nodup_nil
  clients _ := ⟨nofun, fun h => nomatch h.1⟩
  told _ h := nomatch h

section

variable {before : List (Step κ)} {past past' : Past κ} {client : κ} {h h' : Hub κ}

/-- What a connection leaves: the clients there were miss nothing, and neither does the newcomer, if
it could be greeted. -/
theorem Delivers.greeted {answer : Except String Unit} (hd : Delivers before h past)
    (hnew : client ∉ comers before) (hg : Greets client h.welcome past answer past') :
    let step := .connect client :: before
    Orderly step past' ∧
      (∀ other ≠ client, other ∈ h.clients ↔ Present step past' other) ∧
      (∀ other ∈ h.clients, other ≠ client ∧ Misses other [] step past') ∧
      (Present step past' client ↔ answer = .ok ()) ∧
      (answer = .ok () → Misses client [] step past') := by
  intro step
  obtain ⟨htold, hgone⟩ := hd.orderly.stranger client hnew
  have ho : Orderly step past := ⟨hd.orderly.quiet, fun other hother =>
    hd.orderly.stranger other fun hc => hother (List.mem_cons_of_mem _ hc)⟩
  have hm : Misses client (h.welcome.map Message.encoded) step past := by
    unfold Misses Hub.welcome
    rw [htold, hd.last]
    simp [step, owed]
  have hpresent : ∀ other ≠ client, Present step past other ↔ Present before past other := by
    intro other hne
    simp [step, Present, comers, hne]
  have hmisses : ∀ other ≠ client, Misses other [] before past → Misses other [] step past := by
    intro other hne h
    unfold Misses owed
    rw [if_neg hne.symm]
    exact h
  obtain ⟨ho', hothers, hself⟩ := hg.delivers ho ⟨List.mem_cons_self, hgone⟩ hm
  refine ⟨ho', fun other hne => ?_, fun other hc => ?_, hself⟩
  · exact (hd.clients other).trans ((hpresent other hne).symm.trans (hothers other hne).1.symm)
  · have hne : other ≠ client := fun he => hnew (he ▸ ((hd.clients other).mp hc).1)
    exact ⟨hne, (hothers other hne).2 [] (hmisses other hne (hd.told other hc))⟩

/-- A connection keeps what holds between steps, if the newcomer could be greeted. -/
theorem Delivers.joined (hd : Delivers before h past) (hnew : client ∉ comers before)
    (hg : Greets client h.welcome past (.ok ()) past') :
    Delivers (.connect client :: before) ⟨h.clients ++ [client], h.last⟩ past' := by
  obtain ⟨ho, hothers, hclients, hself, hmisses⟩ := hd.greeted hnew hg
  refine ⟨ho, hd.last, ?_, fun other => ?_, fun other hc => ?_⟩
  · refine List.nodup_append.mpr ⟨hd.nodup, by simp, fun other hc comer hcomer => ?_⟩
    rw [List.mem_singleton.mp hcomer]
    exact (hclients other hc).1
  · by_cases hne : other = client
    · rw [hne]
      exact iff_of_true (List.mem_append_right _ List.mem_cons_self) (hself.mpr rfl)
    · rw [← hothers other hne]
      simp [hne]
  · rcases List.mem_append.mp hc with hc | hc
    · exact (hclients other hc).2
    · rw [List.mem_singleton.mp hc]
      exact hmisses rfl

/-- A connection keeps what holds between steps, if the newcomer could not be greeted. -/
theorem Delivers.refused {e : String} (hd : Delivers before h past) (hnew : client ∉ comers before)
    (hg : Greets client h.welcome past (.error e) past') :
    Delivers (.connect client :: before) h past' := by
  obtain ⟨ho, hothers, hclients, hself, -⟩ := hd.greeted hnew hg
  refine ⟨ho, hd.last, hd.nodup, fun other => ?_, fun other hc => (hclients other hc).2⟩
  by_cases hne : other = client
  · rw [hne]
    exact iff_of_false (fun hc => (hclients client hc).1 rfl) fun hp => nomatch hself.mp hp
  · exact hothers other hne

/-- A broadcast keeps what holds between steps. -/
theorem Delivers.broadcast {message : Message} (hd : Delivers before h past)
    (hs : Sends message.encoded h.clients past h'.clients past') (hlast : h'.last = some message) :
    Delivers (.broadcast message :: before) h' past' := by
  have hm : ∀ client ∈ h.clients,
      Misses client [message.encoded] (.broadcast message :: before) past := by
    intro client hc
    have ht := hd.told client hc
    unfold Misses at ht ⊢
    rw [List.append_nil] at ht
    simp [owed, ht]
  have ho : Orderly (.broadcast message :: before) past :=
    ⟨hd.orderly.quiet, hd.orderly.stranger⟩
  obtain ⟨ho, hsub, hothers, hclients⟩ := hs.delivers ho hd.nodup
    (fun client hc => (hd.clients client).mp hc) hm
  refine ⟨ho, hlast, hd.nodup.sublist hsub, fun client => ?_, fun client hc =>
    (hclients client (hsub.subset hc)).2 hc⟩
  by_cases hc : client ∈ h.clients
  · exact (hclients client hc).1.symm
  · have hout : client ∉ h'.clients := fun hc' => hc (hsub.subset hc')
    exact iff_of_false hout fun hp => hc ((hd.clients client).mpr ((hothers client hc).1.mp hp))

/-- What a record says behind the ending of some connections. -/
theorem closed_views (clients : List κ) (past : Past κ) :
    let past' : Past κ := clients.map .closed ++ past
    (past.Quiet → past'.Quiet) ∧ ∀ client, past'.told client = past.told client ∧
      past'.isGone client = (decide (client ∈ clients) || past.isGone client) := by
  induction clients with
  | nil => exact ⟨id, fun _ => ⟨rfl, by simp⟩⟩
  | cons first clients ih =>
    obtain ⟨hq, hviews⟩ := ih
    refine ⟨hq, fun client => ⟨(hviews client).1, ?_⟩⟩
    show (first == client || Past.isGone client (clients.map .closed ++ past)) = _
    rw [(hviews client).2]
    by_cases hc : first = client
    · simp [hc]
    · simp [hc, Ne.symm hc]

/-- Ending all connections keeps what holds between steps. -/
theorem Delivers.closeAll (hd : Delivers before h past) :
    Delivers (.closeAll :: before) ⟨[], h.last⟩ (h.clients.reverse.map .closed ++ past) := by
  obtain ⟨hquiet, hviews⟩ := closed_views h.clients.reverse past
  refine ⟨⟨hquiet hd.orderly.quiet, fun client hnew => ?_⟩, hd.last, List.nodup_nil,
    fun client => ?_, nofun⟩
  · obtain ⟨ht, hg⟩ := hd.orderly.stranger client hnew
    have hout : client ∉ h.clients := fun hc => hnew ((hd.clients client).mp hc).1
    rw [(hviews client).1, (hviews client).2, ht, hg]
    simp [hout]
  · refine ⟨nofun, fun ⟨hcome, hgone⟩ => ?_⟩
    rw [(hviews client).2, Bool.or_eq_false_iff, decide_eq_false_iff_not, List.mem_reverse] at hgone
    exact absurd ((hd.clients client).mpr ⟨hcome, hgone.2⟩) hgone.1

/-- Behind every run no client misses anything, if no client comes twice. -/
theorem delivers_behind {wire : Wire (StateT σ (StateM Sandbox)) κ} (steps : List (Step κ))
    (hn : (comers steps).Nodup) (hl : Leads (Hub.behind wire steps) [] h past) :
    Delivers steps h past := by
  -- Steps are latest first: the hypothesis is about all but the last.
  induction steps generalizing h past with
  | nil =>
    obtain ⟨rfl, rfl⟩ := hl.of_pure
    exact .empty
  | cons step before ih =>
    obtain ⟨h₀, past₀, h₁, hl⟩ := hl.of_bind
    cases step with
    | connect client =>
      obtain ⟨hnew, hn⟩ := List.nodup_cons.mp hn
      rcases leads_connect hl with ⟨hg, rfl⟩ | ⟨e, hg, rfl⟩
      · exact (ih hn h₁).joined hnew hg
      · exact (ih hn h₁).refused hnew hg
    | broadcast message =>
      obtain ⟨hs, hlast⟩ := leads_broadcast hl
      exact (ih hn h₁).broadcast hs hlast
    | closeAll =>
      obtain ⟨rfl, rfl⟩ := leads_closeAll hl
      exact (ih hn h₁).closeAll

end

/-- What is broadcast last is what a client that is there is owed last. -/
theorem getLast?_owed {before : List (Step κ)} {client : κ} {message : Message}
    (hc : client ∈ comers before) (hr : remembered before = some message) :
    (owed client before).getLast? = some message := by
  induction before with
  | nil => cases hr
  | cons step before ih =>
    cases step with
    | connect comer =>
      unfold owed
      by_cases he : comer = client
      · rw [if_pos he, show remembered before = some message from hr]
        rfl
      · rw [if_neg he]
        exact ih ((List.mem_cons.mp hc).resolve_left fun h => he h.symm) hr
    | broadcast last =>
      cases hr
      exact List.getLast?_concat
    | closeAll => exact ih hc hr

/-- **Clients are told everything.** For every way of reaching clients, whatever sending comes to,
and for every order of connections, broadcasts and endings in which no client comes twice:

1. The hub remembers the message that was broadcast last.
2. Its clients, none twice, are those that have come, could be sent all that was tried, and whose
   connection was not ended.
3. Each was sent exactly whom it is connected to, the message that was remembered when it came, and
   every message from then on; what is remembered is what it was sent last.
4. Nothing was sent to a client that could not be told before or whose connection was ended. -/
theorem clients_told_everything (wire : Wire (StateT σ (StateM Sandbox)) κ) (steps : List (Step κ))
    (h : Hub κ) (past : Past κ) (hn : (comers steps).Nodup)
    (hl : Leads (Hub.behind wire steps) [] h past) :
    h.last = remembered steps ∧
    (h.clients.Nodup ∧
      ∀ client, client ∈ h.clients ↔ client ∈ comers steps ∧ past.isGone client = false) ∧
    (∀ client ∈ h.clients, past.told client = (owed client steps).map Message.encoded ∧
      ∀ message, h.last = some message → (past.told client).getLast? = some message.encoded) ∧
    past.Quiet := by
  have hd := delivers_behind steps hn hl
  refine ⟨hd.last, ⟨hd.nodup, hd.clients⟩, fun client hc => ?_, hd.orderly.quiet⟩
  have ht : past.told client = (owed client steps).map Message.encoded := by
    have h := hd.told client hc
    unfold Misses at h
    rwa [List.append_nil] at h
  refine ⟨ht, fun message hm => ?_⟩
  have hcome := ((hd.clients client).mp hc).1
  rw [ht, List.getLast?_map, getLast?_owed hcome (hd.last.symm.trans hm)]
  rfl

/-- The second client is dropped when it cannot be told of `b`. The first has been told of both
addresses and goes on; the third comes later and is told of `b` first. -/
theorem clients_told_everything_dropped :
    let a := Message.navigate ['a']
    let b := Message.navigate ['b']
    let wire : Wire (StateT Unit (StateM Sandbox)) Nat :=
      ⟨fun client text => return if client = 2 ∧ text = b.encoded then .error "gone" else .ok (),
        fun _ => return ()⟩
    let steps :=
      [.broadcast .closed, .connect 3, .broadcast b, .connect 2, .broadcast a, .connect 1]
    let run := Hub.behind wire steps [] () .empty
    let past : Past Nat := run.1.1.2
    run.1.1.1.clients = [1, 3] ∧
      past.told 1 = [Message.greeting, a, b, .closed].map Message.encoded ∧
      past.told 3 = [Message.greeting, b, .closed].map Message.encoded ∧
      past.isGone 2 = true ∧ past.Quiet := by
  intro a b wire steps run past
  have hclients : run.1.1.1.clients = [1, 3] := by decide
  have hout : 2 ∉ run.1.1.1.clients := by
    rw [hclients]
    decide
  obtain ⟨-, ⟨-, hmembers⟩, htold, hquiet⟩ :=
    clients_told_everything wire steps run.1.1.1 past (by decide) ⟨(), .empty, rfl⟩
  rw [hclients] at htold
  refine ⟨hclients, (htold 1 (by decide)).1, (htold 3 (by decide)).1, ?_, hquiet⟩
  exact eq_true_of_ne_false fun hgone => hout ((hmembers 2).mpr ⟨by decide, hgone⟩)

end LivePreview.Reload
