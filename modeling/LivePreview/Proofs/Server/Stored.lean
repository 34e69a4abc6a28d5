import LivePreview.Proofs.Surface.Blobs
import LivePreview.Server.Response

/-!
# What a store holds

A store of blobs behind any calls, and the site that answers from it.

1. What is held and what is shown is said of the calls alone: a number holds a body if the insertion
   that it counts put it in and it was not revoked since (`Holds`), and it is shown if it was made
   active while it held one, and since then neither was it revoked nor was another made active that
   held one (`Shows`). Both go along with the latest call (`holds_cons`, `shows_cons`).
2. As long as there are numbers left, the store has the blobs that are held and the active one is
   the one that is shown (`Stored`). Every call keeps this.
3. From it the answers of the store and of the site can be read off. If the tags of the bodies that
   were put in are apart, one who is told that nothing is new has been given the body that is held
   (`store_answers_what_it_holds`).
-/

namespace LivePreview.Server

open Surface (Blob Blobs)

/-- What is done with a store, and asked of the site that has it. -/
inductive Call where
  | insert (body : String)
  | activate (id : Nat)
  | revoke (id : Nat)
  | request (closing : Bool) (r : Request)

/-- The bodies that calls put in, latest first. -/
def bodies : List Call → List String
  | [] => []
  | .insert body :: past => body :: bodies past
  | _ :: past => bodies past

/-- The store behind calls, latest first. -/
def stored : List Call → Blobs
  | [] => .empty
  | .insert body :: past => ((stored past).insert body).2
  | .activate id :: past => ((stored past).activate id).2
  | .revoke id :: past => ((stored past).revoke id).2
  | .request _ _ :: past => stored past

/-- A number holds a body: the insertion that it counts put it in, and it was not revoked since. -/
def Holds (past : List Call) (id : Nat) (body : String) : Prop :=
  ∃ later earlier, past = later ++ .insert body :: earlier ∧ id = (bodies earlier).length + 1 ∧
    .revoke id ∉ later

/-- A number is shown: it was made active while it held a body, and since then it was not revoked
and no other was made active that held one. -/
def Shows (past : List Call) (id : Nat) : Prop :=
  ∃ later earlier, past = later ++ .activate id :: earlier ∧ (∃ body, Holds earlier id body) ∧
    .revoke id ∉ later ∧ ∀ newer other older, later = newer ++ .activate other :: older →
      ∀ body, ¬ Holds (older ++ .activate id :: earlier) other body

/-! ## What goes along with a call -/

theorem bodies_append (later earlier : List Call) :
    bodies (later ++ earlier) = bodies later ++ bodies earlier := by
  induction later with
  | nil => rfl
  | cons x later ih => cases x <;> simp only [List.cons_append, bodies, ih]

theorem length_bodies_append (later earlier : List Call) :
    (bodies (later ++ earlier)).length = (bodies later).length + (bodies earlier).length := by
  rw [bodies_append, List.length_append]

section

variable {past : List Call} {id : Nat} {body : String} {x : Call}

theorem not_holds_nil : ¬ Holds [] id body := by
  rintro ⟨later, earlier, h, -⟩
  simp at h

theorem not_shows_nil : ¬ Shows [] id := by
  rintro ⟨later, earlier, h, -⟩
  simp at h

theorem holds_cons : Holds (x :: past) id body ↔
    (x = .insert body ∧ id = (bodies past).length + 1) ∨ (x ≠ .revoke id ∧ Holds past id body) := by
  constructor
  · rintro ⟨later, earlier, hs, hid, hr⟩
    rcases List.cons_eq_append_iff.mp hs with ⟨rfl, he⟩ | ⟨later, rfl, rfl⟩
    · cases he
      exact .inl ⟨rfl, hid⟩
    · rw [List.mem_cons, not_or] at hr
      exact .inr ⟨Ne.symm hr.1, later, earlier, rfl, hid, hr.2⟩
  · rintro (⟨rfl, hid⟩ | ⟨hx, later, earlier, rfl, hid, hr⟩)
    · exact ⟨[], past, rfl, hid, List.not_mem_nil⟩
    · refine ⟨x :: later, earlier, rfl, hid, ?_⟩
      rw [List.mem_cons, not_or]
      exact ⟨Ne.symm hx, hr⟩

theorem shows_cons : Shows (x :: past) id ↔
    (x = .activate id ∧ ∃ body, Holds past id body) ∨
    (x ≠ .revoke id ∧ (∀ other, x = .activate other → ∀ body, ¬ Holds past other body) ∧
      Shows past id) := by
  constructor
  · rintro ⟨later, earlier, hs, hheld, hr, hlast⟩
    rcases List.cons_eq_append_iff.mp hs with ⟨rfl, he⟩ | ⟨later, rfl, rfl⟩
    · cases he
      exact .inl ⟨rfl, hheld⟩
    · rw [List.mem_cons, not_or] at hr
      refine .inr ⟨Ne.symm hr.1, ?_, later, earlier, rfl, hheld, hr.2, ?_⟩
      · rintro other rfl
        exact hlast [] other later rfl
      · rintro newer other older rfl
        exact hlast (x :: newer) other older rfl
  · rintro (⟨rfl, hheld⟩ | ⟨hx, hother, later, earlier, rfl, hheld, hr, hlast⟩)
    · refine ⟨[], past, rfl, hheld, List.not_mem_nil, fun newer other older he => ?_⟩
      simp at he
    · refine ⟨x :: later, earlier, rfl, hheld, ?_, fun newer other older he => ?_⟩
      · rw [List.mem_cons, not_or]
        exact ⟨Ne.symm hx, hr⟩
      · rcases List.cons_eq_append_iff.mp he with ⟨rfl, he⟩ | ⟨newer, rfl, rfl⟩
        · cases he
          exact hother other rfl
        · exact hlast newer other older rfl

/-- Only numbers that were given out hold a body. -/
theorem Holds.le (h : Holds past id body) : id ≤ (bodies past).length := by
  induction past with
  | nil => exact absurd h not_holds_nil
  | cons x past ih =>
    rcases holds_cons.mp h with ⟨rfl, rfl⟩ | ⟨-, hpast⟩
    · exact Nat.le_refl _
    · have hle := ih hpast
      cases x <;> simp only [bodies, List.length_cons] <;> omega

/-- A number holds one body at most. -/
theorem Holds.unique {body' : String} (h : Holds past id body) (h' : Holds past id body') :
    body = body' := by
  induction past with
  | nil => exact absurd h not_holds_nil
  | cons x past ih =>
    rcases holds_cons.mp h with ⟨rfl, rfl⟩ | ⟨-, h⟩ <;>
      rcases holds_cons.mp h' with ⟨hx, hid⟩ | ⟨-, h'⟩
    · cases hx
      rfl
    · have := h'.le
      omega
    · have := h.le
      omega
    · exact ih h h'

/-- What is held was put in. -/
theorem Holds.mem (h : Holds past id body) : body ∈ bodies past := by
  induction past with
  | nil => exact absurd h not_holds_nil
  | cons x past ih =>
    rcases holds_cons.mp h with ⟨rfl, -⟩ | ⟨-, hpast⟩
    · exact List.mem_cons_self
    · have hm := ih hpast
      cases x with
      | insert body' => exact List.mem_cons_of_mem _ hm
      | activate | revoke | request => exact hm

/-- What is shown holds a body. -/
theorem Shows.holds (h : Shows past id) : ∃ body, Holds past id body := by
  induction past with
  | nil => exact absurd h not_shows_nil
  | cons x past ih =>
    rcases shows_cons.mp h with ⟨rfl, body, hb⟩ | ⟨hx, -, h⟩
    · exact ⟨body, holds_cons.mpr (.inr ⟨nofun, hb⟩)⟩
    · obtain ⟨body, hb⟩ := ih h
      exact ⟨body, holds_cons.mpr (.inr ⟨hx, hb⟩)⟩

/-- One number is shown at most. -/
theorem Shows.unique {id' : Nat} (h : Shows past id) (h' : Shows past id') : id = id' := by
  induction past with
  | nil => exact absurd h not_shows_nil
  | cons x past ih =>
    rcases shows_cons.mp h with ⟨rfl, body, hb⟩ | ⟨-, hother, h⟩ <;>
      rcases shows_cons.mp h' with ⟨hx, body', hb'⟩ | ⟨-, hother', h'⟩
    · cases hx
      rfl
    · exact absurd hb (hother' id rfl body)
    · exact absurd hb' (hother id' hx body')
    · exact ih h h'

/-- A number that was given out and revoked never holds a body again. -/
theorem not_holds_of_revoked {later earlier : List Call} (hid : id ≤ (bodies earlier).length) :
    ¬ Holds (later ++ .revoke id :: earlier) id body := by
  induction later with
  | nil =>
    intro h
    rcases holds_cons.mp h with ⟨hx, -⟩ | ⟨hx, -⟩
    · cases hx
    · exact hx rfl
  | cons x later ih =>
    intro h
    rcases holds_cons.mp h with ⟨-, he⟩ | ⟨-, h⟩
    · rw [List.append_eq, length_bodies_append] at he
      simp only [bodies] at he
      omega
    · exact ih h

end

/-! ## The store -/

/-- A store has the blobs that are held, and its active blob is the one that is shown. -/
structure Stored (past : List Call) (s : Blobs) : Prop where
  given : s.given = (bodies past).length
  mem_iff : ∀ b, b ∈ s.blobs ↔ Holds past b.id b.body
  active_iff : ∀ b, s.active = some b ↔ Holds past b.id b.body ∧ Shows past b.id

section

variable {past : List Call} {s : Blobs}

/-- A number is looked up to the blob of the body that it holds. -/
theorem Stored.get?_eq_some_iff (h : Stored past s) {id : Nat} {b : Blob} :
    s.get? id = some b ↔ b.id = id ∧ Holds past id b.body := by
  unfold Blobs.get?
  constructor
  · intro hf
    have hid : b.id = id := by simpa using List.find?_some hf
    exact ⟨hid, hid ▸ (h.mem_iff b).mp (List.mem_of_find?_eq_some hf)⟩
  · rintro ⟨rfl, hb⟩
    cases hf : s.blobs.find? fun b' => b'.id == b.id with
    | none =>
      have hne := List.find?_eq_none.mp hf b ((h.mem_iff b).mpr hb)
      exact absurd (beq_self_eq_true _) hne
    | some b' =>
      have hid : b'.id = b.id := by simpa using List.find?_some hf
      have hb' := (h.mem_iff b').mp (List.mem_of_find?_eq_some hf)
      rw [hid] at hb'
      have hbody : b'.body = b.body := hb'.unique hb
      cases b
      cases b'
      simp_all

theorem Stored.get?_eq_none_iff (h : Stored past s) {id : Nat} :
    s.get? id = none ↔ ∀ body, ¬ Holds past id body := by
  constructor
  · intro hn body hb
    have hsome : s.get? id = some ⟨id, body⟩ := h.get?_eq_some_iff.mpr ⟨rfl, hb⟩
    rw [hn] at hsome
    cases hsome
  · intro hn
    cases hg : s.get? id with
    | none => rfl
    | some b => exact absurd (h.get?_eq_some_iff.mp hg).2 (hn b.body)

/-- A number is that of the active blob exactly if it is shown. -/
theorem Stored.isActive_iff (h : Stored past s) {id : Nat} :
    s.isActive id = true ↔ Shows past id := by
  unfold Blobs.isActive
  constructor
  · intro ha
    cases hs : s.active with
    | none =>
      rw [hs] at ha
      cases ha
    | some b =>
      rw [hs] at ha
      exact beq_iff_eq.mp ha ▸ ((h.active_iff b).mp hs).2
  · intro hs
    obtain ⟨body, hb⟩ := hs.holds
    rw [(h.active_iff ⟨id, body⟩).mpr ⟨hb, hs⟩]
    exact beq_self_eq_true id

theorem Stored.empty : Stored [] .empty where
  given := rfl
  mem_iff _ := iff_of_false List.not_mem_nil not_holds_nil
  active_iff _ := iff_of_false nofun fun h => not_holds_nil h.1

/-- The number that is given out next. -/
theorem Stored.insert_fst (h : Stored past s) (body : String)
    (hl : (bodies past).length + 1 < Blob.idLimit) :
    (s.insert body).1 = ⟨(bodies past).length + 1, body⟩ := by
  unfold Blobs.insert
  rw [h.given, Nat.mod_eq_of_lt hl]

theorem Stored.insert (h : Stored past s) (body : String)
    (hl : (bodies past).length + 1 < Blob.idLimit) :
    Stored (.insert body :: past) (s.insert body).2 where
  given := by
    show s.given + 1 = _
    rw [h.given]
    rfl
  mem_iff b := by
    show b ∈ (s.blobs.filter fun b => b.id != (s.insert body).1.id) ++ [(s.insert body).1] ↔ _
    rw [h.insert_fst body hl, List.mem_append, List.mem_filter, h.mem_iff, List.mem_singleton,
      bne_iff_ne, holds_cons]
    constructor
    · rintro (⟨hb, -⟩ | rfl)
      · exact .inr ⟨nofun, hb⟩
      · exact .inl ⟨rfl, rfl⟩
    · rintro (⟨he, hid⟩ | ⟨-, hb⟩)
      · cases b
        cases he
        simp_all
      · have := hb.le
        exact .inl ⟨hb, by simp only; omega⟩
  active_iff b := by
    show s.active = some b ↔ _
    rw [h.active_iff, holds_cons, shows_cons]
    constructor
    · rintro ⟨hb, hs⟩
      exact ⟨.inr ⟨nofun, hb⟩, .inr ⟨nofun, nofun, hs⟩⟩
    · rintro ⟨hb, ⟨he, -⟩ | ⟨-, -, hs⟩⟩
      · cases he
      · obtain ⟨body', hb'⟩ := hs.holds
        rcases hb with ⟨-, hid⟩ | ⟨-, hb⟩
        · have := hb'.le
          omega
        · exact ⟨hb, hs⟩

theorem Stored.activate (h : Stored past s) (id : Nat) :
    Stored (.activate id :: past) (s.activate id).2 := by
  have hholds : ∀ id' body, Holds (.activate id :: past) id' body ↔ Holds past id' body :=
    fun id' body => by simp [holds_cons]
  unfold Blobs.activate
  cases hg : s.get? id with
  | none =>
    have hfree := h.get?_eq_none_iff.mp hg
    refine ⟨h.given, fun b => by rw [hholds]; exact h.mem_iff b, fun b => ?_⟩
    show s.active = some b ↔ _
    rw [hholds, h.active_iff, shows_cons]
    refine and_congr_right fun hb => ⟨fun hs => .inr ⟨nofun, ?_, hs⟩, ?_⟩
    · rintro other he
      cases he
      exact hfree
    · rintro (⟨he, body, hb'⟩ | ⟨-, -, hs⟩)
      · cases he
        exact absurd hb' (hfree body)
      · exact hs
  | some found =>
    obtain ⟨rfl, hfound⟩ := h.get?_eq_some_iff.mp hg
    refine ⟨h.given, fun b => by rw [hholds]; exact h.mem_iff b, fun b => ?_⟩
    show some found = some b ↔ _
    rw [hholds, Option.some.injEq, shows_cons]
    constructor
    · rintro rfl
      exact ⟨hfound, .inl ⟨rfl, found.body, hfound⟩⟩
    · rintro ⟨hb, ⟨he, -⟩ | ⟨-, hother, -⟩⟩
      · have hid : found.id = b.id := Call.activate.inj he
        rw [← hid] at hb
        have hbody : found.body = b.body := hfound.unique hb
        cases found
        cases b
        simp_all
      · exact absurd hfound (hother found.id rfl found.body)

theorem Stored.revoke (h : Stored past s) (id : Nat) :
    Stored (.revoke id :: past) (s.revoke id).2 := by
  have hmem : ∀ b, b ∈ (s.blobs.filter fun b => b.id != id) ↔
      Holds (.revoke id :: past) b.id b.body := by
    intro b
    rw [List.mem_filter, h.mem_iff, bne_iff_ne, holds_cons]
    simp [and_comm, eq_comm]
  have hshows : ∀ id', Shows (.revoke id :: past) id' ↔ id ≠ id' ∧ Shows past id' := by
    intro id'
    rw [shows_cons]
    simp
  unfold Blobs.revoke
  dsimp only
  by_cases ha : s.isActive id = true
  · rw [if_pos ha]
    refine ⟨h.given, hmem, fun b => iff_of_false nofun ?_⟩
    rintro ⟨-, hs⟩
    obtain ⟨hne, hs⟩ := (hshows b.id).mp hs
    exact hne ((h.isActive_iff.mp ha).unique hs)
  · rw [if_neg ha]
    refine ⟨h.given, hmem, fun b => ?_⟩
    show s.active = some b ↔ _
    rw [h.active_iff, hshows, holds_cons]
    constructor
    · rintro ⟨hb, hs⟩
      have hne : id ≠ b.id := by
        rintro rfl
        exact ha (h.isActive_iff.mpr hs)
      exact ⟨.inr ⟨by simpa using hne, hb⟩, hne, hs⟩
    · rintro ⟨⟨he, -⟩ | ⟨-, hb⟩, -, hs⟩
      · cases he
      · exact ⟨hb, hs⟩

theorem Stored.request (h : Stored past s) (closing : Bool) (r : Request) :
    Stored (.request closing r :: past) s where
  given := h.given
  mem_iff b := by simp [h.mem_iff, holds_cons]
  active_iff b := by simp [h.active_iff, holds_cons, shows_cons]

end

/-- Every run keeps what a store has to what is held and shown. -/
theorem stored_behind {past : List Call} (hl : (bodies past).length < Blob.idLimit) :
    Stored past (stored past) := by
  induction past with
  | nil => exact .empty
  | cons x past ih =>
    cases x with
    | insert body => exact (ih (Nat.lt_of_succ_lt hl)).insert body hl
    | activate id => exact (ih hl).activate id
    | revoke id => exact (ih hl).revoke id
    | request closing r => exact (ih hl).request closing r

/-! ## The site -/

/-- Under the address of a number is what the number is looked up to. -/
theorem respond_of_path (site : Site) {r : Request} {id : Nat} (ha : r.isAnswered = true)
    (hp : r.path = (Blob.urlOf id).toList) :
    site.respond false r =
      match if id < Blob.idLimit then site.blobs.get? id else none with
      | some b => .blob r b
      | none => .notFound := by
  have hroot : ¬ ((Blob.urlOf id).toList = "/".toList ∨
      (Blob.urlOf id).toList = "/index.html".toList) := by
    rw [Blob.toList_urlOf, Blob.address_eq, show "/".toList = _ from String.toList_ofList,
      show "/index.html".toList = _ from String.toList_ofList]
    rintro (he | he) <;> cases he
  rw [Site.respond, if_neg Bool.false_ne_true, if_pos ha, Site.answerAt, hp, if_neg hroot,
    Blob.ofUrl?_urlOf]
  by_cases hid : id < Blob.idLimit
  · rw [if_pos hid, if_pos hid]
    dsimp only
    cases site.blobs.get? id <;> rfl
  · rw [if_neg hid, if_neg hid]

/-- An answer is that of a blob, or it has no tag and does not say that nothing is new. -/
theorem respond_cases (site : Site) (closing : Bool) (r : Request) :
    (∃ id b, Blob.ofUrl? r.path = some id ∧ site.blobs.get? id = some b ∧
      site.respond closing r = .blob r b) ∨
    ((site.respond closing r).status ≠ 304 ∧
      ∀ tag, ("ETag", tag) ∉ (site.respond closing r).headers) := by
  unfold Site.respond
  by_cases hc : closing = true
  · rw [if_pos hc]
    exact .inr ⟨by simp [Response.unavailable, Response.text],
      by simp [Response.unavailable, Response.text]⟩
  rw [if_neg hc]
  by_cases ha : r.isAnswered = true
  · rw [if_pos ha]
    unfold Site.answerAt
    by_cases hp : r.path = "/".toList ∨ r.path = "/index.html".toList
    · rw [if_pos hp]
      exact .inr ⟨by simp [Response.shell], by simp [Response.shell]⟩
    · rw [if_neg hp]
      cases hu : Blob.ofUrl? r.path with
      | none =>
        exact .inr ⟨by simp [Response.notFound, Response.text],
          by simp [Response.notFound, Response.text]⟩
      | some id =>
        dsimp only
        cases hg : site.blobs.get? id with
        | none =>
          exact .inr ⟨by simp [Response.notFound, Response.text],
            by simp [Response.notFound, Response.text]⟩
        | some b => exact .inl ⟨id, b, rfl, hg, rfl⟩
  · rw [if_neg ha]
    exact .inr ⟨by simp [Response.methodNotAllowed, Response.text],
      by simp [Response.methodNotAllowed, Response.text]⟩

/-- The one tag of an answer with a blob is that of its body. -/
theorem eq_tag_of_blob {r : Request} {b : Blob} {tag : String}
    (h : ("ETag", tag) ∈ (Response.blob r b).headers) : tag = b.tag := by
  unfold Response.blob at h
  by_cases hh : r.header? "if-none-match" = some b.tag
  · simpa [hh] using h
  · simpa [hh] using h

/-- One who names the tag of a blob is answered that nothing is new, and another the body. -/
theorem blob_sends (r : Request) (b : Blob) :
    (r.header? "if-none-match" = some b.tag ∧ (Response.blob r b).status = 304) ∨
    (r.header? "if-none-match" ≠ some b.tag ∧ (Response.blob r b).status = 200 ∧
      (r.method = "GET" → (Response.blob r b).data = b.body)) := by
  unfold Response.blob
  by_cases hh : r.header? "if-none-match" = some b.tag
  · rw [if_pos hh]
    exact .inl ⟨hh, rfl⟩
  · rw [if_neg hh]
    refine .inr ⟨hh, rfl, fun hm => ?_⟩
    have hhead : r.isHead = false := by
      rw [Request.isHead, hm]
      rfl
    show (if r.isHead then "" else b.body) = b.body
    rw [hhead]
    rfl

/-- Bodies with one tag are the same. -/
def Apart (bodies : List String) : Prop :=
  ∀ a ∈ bodies, ∀ b ∈ bodies, (Blob.mk 0 a).tag = (Blob.mk 0 b).tag → a = b

instance (bodies : List String) : Decidable (Apart bodies) :=
  inferInstanceAs (Decidable (∀ a ∈ bodies, ∀ b ∈ bodies, _))

/-- One who is told that nothing is new has been given what is held: the number holds a body, and it
is what any earlier `GET` with the same tag was answered. -/
theorem unchanged_of_304 {past : List Call} (hl : (bodies past).length < Blob.idLimit)
    (ht : Apart (bodies past)) {title : String} {port : Nat} {closing : Bool} {r : Request}
    (h : ((Site.mk title port (stored past)).respond closing r).status = 304) :
    ∃ id body, Blob.ofUrl? r.path = some id ∧ Holds past id body ∧
      ∀ later closing' r' earlier, past = later ++ .request closing' r' :: earlier →
        r'.method = "GET" →
        ((Site.mk title port (stored earlier)).respond closing' r').status = 200 →
        ∀ tag, ("ETag", tag) ∈ ((Site.mk title port (stored past)).respond closing r).headers →
          ("ETag", tag) ∈ ((Site.mk title port (stored earlier)).respond closing' r').headers →
          ((Site.mk title port (stored earlier)).respond closing' r').data = body := by
  rcases respond_cases ⟨title, port, stored past⟩ closing r with ⟨id, b, hu, hg, hr⟩ | ⟨hn, -⟩
  · obtain ⟨-, hb⟩ := (stored_behind hl).get?_eq_some_iff.mp hg
    refine ⟨id, b.body, hu, hb, fun later closing' r' earlier he hm hs tag htag htag' => ?_⟩
    rw [hr] at htag
    rcases respond_cases ⟨title, port, stored earlier⟩ closing' r' with
      ⟨id', b', -, hg', hr'⟩ | ⟨-, hn⟩
    · rw [hr'] at htag' hs ⊢
      have hlen : (bodies past).length = (bodies later).length + (bodies earlier).length := by
        rw [he, length_bodies_append]
        rfl
      have hl' : (bodies earlier).length < Blob.idLimit := by omega
      obtain ⟨-, hb'⟩ := (stored_behind hl').get?_eq_some_iff.mp hg'
      have hsame : b'.tag = b.tag := (eq_tag_of_blob htag').symm.trans (eq_tag_of_blob htag)
      have hbody : (Response.blob r' b').data = b'.body := by
        rcases blob_sends r' b' with ⟨-, hs'⟩ | ⟨-, -, hdata⟩
        · rw [hs'] at hs
          cases hs
        · exact hdata hm
      rw [hbody]
      refine ht b'.body ?_ b.body hb.mem hsame
      rw [he, bodies_append]
      exact List.mem_append_right _ hb'.mem
    · exact absurd htag' (hn tag)
  · exact absurd h hn

/-- **A store answers what it holds.** Behind any calls, as long as there are numbers left:

1. The insertions give out the numbers from one on, in order.
2. A number is looked up to the body that it holds, and to nothing if it holds none. Under its
   address the site answers with that body or that there is nothing. A number that was given out and
   revoked holds nothing ever again.
3. The active blob is the one that is shown. Making active what is not held, and revoking what is
   not shown, leave it; a revocation tells whether its number was shown.
4. If tags tell the bodies apart, one who is answered that nothing is new was given the body that is
   held, under whatever number. -/
theorem store_answers_what_it_holds (past : List Call) (title : String) (port : Nat)
    (hl : (bodies past).length < Blob.idLimit) (ht : Apart (bodies past)) :
    let s := stored past
    let site : Site := ⟨title, port, s⟩
    (∀ later body earlier, past = later ++ .insert body :: earlier →
      ((stored earlier).insert body).1 = ⟨(bodies earlier).length + 1, body⟩) ∧
    (∀ id, (∀ b, s.get? id = some b ↔ b.id = id ∧ Holds past id b.body) ∧
      ∀ r, r.isAnswered = true → r.path = (Blob.urlOf id).toList →
        (∀ body, Holds past id body → site.respond false r = .blob r ⟨id, body⟩ ∧
          (r.header? "if-none-match" = some (Blob.mk id body).tag ∧
            (site.respond false r).status = 304 ∨
          r.header? "if-none-match" ≠ some (Blob.mk id body).tag ∧
            (site.respond false r).status = 200 ∧
            (r.method = "GET" → (site.respond false r).data = body))) ∧
        ((∀ body, ¬ Holds past id body) → site.respond false r = .notFound)) ∧
    (∀ later id earlier, past = later ++ .revoke id :: earlier → id ≤ (bodies earlier).length →
      ∀ body, ¬ Holds past id body) ∧
    (∀ b, s.active = some b ↔ Holds past b.id b.body ∧ Shows past b.id) ∧
    (∀ id, (∀ body, ¬ Holds past id body) → s.activate id = (none, s)) ∧
    (∀ id, ((s.revoke id).1 = true ↔ Shows past id) ∧
      (¬ Shows past id → (s.revoke id).2.active = s.active)) ∧
    ∀ closing r, (site.respond closing r).status = 304 →
      ∃ id body, Blob.ofUrl? r.path = some id ∧ Holds past id body ∧
        ∀ later closing' r' earlier, past = later ++ .request closing' r' :: earlier →
          r'.method = "GET" →
          ((Site.mk title port (stored earlier)).respond closing' r').status = 200 →
          ∀ tag, ("ETag", tag) ∈ (site.respond closing r).headers →
            ("ETag", tag) ∈ ((Site.mk title port (stored earlier)).respond closing' r').headers →
            ((Site.mk title port (stored earlier)).respond closing' r').data = body := by
  intro s site
  have hs : Stored past s := stored_behind hl
  refine ⟨?_, ?_, ?_, hs.active_iff, ?_, ?_, fun closing r => unchanged_of_304 hl ht⟩
  · rintro later body earlier rfl
    have hlen := length_bodies_append later (.insert body :: earlier)
    simp only [bodies, List.length_cons] at hlen
    exact (stored_behind (by omega)).insert_fst body (by omega)
  · refine fun id => ⟨fun b => hs.get?_eq_some_iff, fun r ha hp =>
      ⟨fun body hb => ?_, fun hn => ?_⟩⟩
    · have hlt : id < Blob.idLimit := Nat.lt_of_le_of_lt hb.le hl
      have hget : s.get? id = some ⟨id, body⟩ := hs.get?_eq_some_iff.mpr ⟨rfl, hb⟩
      rw [respond_of_path site ha hp, if_pos hlt, hget]
      exact ⟨rfl, blob_sends r ⟨id, body⟩⟩
    · have hget : s.get? id = none := hs.get?_eq_none_iff.mpr hn
      rw [respond_of_path site ha hp, hget, ite_self]
  · rintro later id earlier rfl hid body
    exact not_holds_of_revoked hid
  · intro id hn
    unfold Blobs.activate
    rw [hs.get?_eq_none_iff.mpr hn]
  · intro id
    unfold Blobs.revoke
    dsimp only
    rw [← hs.isActive_iff]
    by_cases ha : s.isActive id = true
    · simp [ha]
    · simp [ha]

/-- A body that was given and is asked for again, behind the revocation of another one. -/
theorem store_answers_what_it_holds_again :
    let get : Request := ⟨"GET", "/blob/1", []⟩
    let again : Request := ⟨"GET", "/blob/1", [("If-None-Match", (Blob.mk 1 "a").tag)]⟩
    let earlier : List Call := [.activate 1, .insert "b", .insert "a"]
    let past : List Call := .revoke 2 :: .request false get :: earlier
    let site : Site := ⟨"", 0, stored past⟩
    (bodies past).length < Blob.idLimit ∧ Apart (bodies past) ∧
      (site.respond false again).status = 304 ∧
      Holds past 1 ((Site.mk "" 0 (stored earlier)).respond false get).data := by
  intro get again earlier past site
  have hl : (bodies past).length < Blob.idLimit := by decide
  have ht : Apart (bodies past) := by decide +kernel
  have hstatus : (site.respond false again).status = 304 := by decide +kernel
  refine ⟨hl, ht, hstatus, ?_⟩
  obtain ⟨id, body, hu, hb, hsame⟩ :=
    (store_answers_what_it_holds past "" 0 hl ht).2.2.2.2.2.2 false again hstatus
  have hid : Blob.ofUrl? again.path = some 1 := by decide +kernel
  have hdata : ((Site.mk "" 0 (stored earlier)).respond false get).data = body :=
    hsame [.revoke 2] false get earlier rfl rfl (by decide +kernel) (Blob.mk 1 "a").tag
      (by decide +kernel) (by decide +kernel)
  rw [hid] at hu
  cases hu
  rw [hdata]
  exact hb

end LivePreview.Server
