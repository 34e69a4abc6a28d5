import LivePreview.Proofs.Page
import LivePreview.Proofs.Text.Entity

/-!
# The regions of the shell page

1. The shell page is its skeleton with a title, a style, an address and a script in their places,
   and the script is the reload script with the port in its place (`shell_eq_skeleton`).
2. A page is read by its marks: the title goes up to the next angle bracket, the frame's address up
   to the next quote (`Regions.read?`). Where the title has no angle bracket and the address no
   quote, they are read as they stand in the page, and what is around them is read alike for all
   titles and addresses (`read?_skeleton`).
-/

namespace LivePreview.Page

open Text (Part Marked toList_fill escape escapeAttribute splitAtFirst decodeReferences)

/-! ## The skeleton -/

/-- The skeleton of a shell page, with a title, a style, a frame's address and a script. -/
def shellSkeleton (title style source script : String) : String :=
  shellHead ++ title ++ shellHeading ++ style ++ shellFrame ++ source ++ shellScript ++ script ++
    shellEnd

/-- The reload script for a port. -/
def reloadAt (port : Nat) : String := reloadHead ++ String.ofList (Text.decimal port) ++ reloadTail

theorem reloadTail_unmarked : '_' ∉ reloadTail.toList := by
  unfold reloadTail
  iterate 7 refine not_mem_toList_append ?_ (not_mem_toList_ofList (by decide))
  exact not_mem_toList_ofList (by decide)

/-- The script of a shell page has the port in place of its key. -/
theorem shellReload_eq (port : Nat) : shellReload port = reloadAt port := by
  let part : Part := ⟨reloadHead.toList, "__FENCEPLAY_WS_PORT__".toList, Text.decimal port⟩
  have htemplate : reloadScript.toList = Part.sources [part] ++ reloadTail.toList := by
    simp only [reloadScript, String.toList_append, Part.sources, List.flatMap_cons,
      List.flatMap_nil, List.append_nil, part]
  have hk : Marked '_' ([part].map Part.key) := by
    refine ⟨fun key hkey => ?_, List.pairwise_singleton _ _⟩
    rw [List.mem_singleton.mp hkey]
    exact congrArg List.head? String.toList_ofList
  have hpiece : ∀ p ∈ [part], '_' ∉ p.piece := by
    intro p hp
    rw [List.mem_singleton.mp hp]
    exact not_mem_toList_ofList (by decide)
  rw [← String.toList_inj, shellReload]
  refine Eq.trans (toList_fill htemplate ?_ hk hpiece reloadTail_unmarked) ?_
  · simp only [List.map_cons, List.map_nil, String.toList_ofList, part]
  · simp only [reloadAt, String.toList_append, String.toList_ofList, Part.filled,
      List.flatMap_cons, List.flatMap_nil, List.append_nil, part]

theorem shell_eq_skeleton (title source : String) (port : Nat) :
    shell title source port =
      shellSkeleton (escape title) shellStyle (escapeAttribute source) (reloadAt port) := by
  rw [shell_eq, framing, shellReload_eq]
  rfl

/-! ## Reading a page -/

/-- A page around its title and the address of its frame. -/
structure Regions where
  head : List Char
  title : List Char
  middle : List Char
  source : List Char
  tail : List Char

/-- The first title of a page, up to the next angle bracket, and the first address behind it, up to
the next quote. -/
def Regions.read? (page : List Char) : Option Regions :=
  (splitAtFirst "<title>".toList page).bind fun found =>
    (splitAtFirst "src=\"".toList (found.2.dropWhile (· != '<'))).map fun found' =>
      ⟨found.1, found.2.takeWhile (· != '<'), found'.1, found'.2.takeWhile (· != '"'),
        found'.2.dropWhile (· != '"')⟩

/-- The page that was read. -/
def Regions.text (r : Regions) : List Char :=
  r.head ++ ("<title>".toList ++
    (r.title ++ (r.middle ++ ("src=\"".toList ++ (r.source ++ r.tail)))))

theorem Regions.text_of_read? {page : List Char} {r : Regions} (h : Regions.read? page = some r) :
    r.text = page := by
  obtain ⟨found, hs, h⟩ := Option.bind_eq_some_iff.mp h
  obtain ⟨found', hs', rfl⟩ := Option.map_eq_some_iff.mp h
  rw [Text.splitAtFirst_eq_some hs, Regions.text]
  dsimp only
  rw [List.takeWhile_append_dropWhile, ← Text.splitAtFirst_eq_some hs',
    List.takeWhile_append_dropWhile]

theorem toList_append_eq {s t : String} {cs ds : List Char} (hs : s.toList = cs)
    (ht : t.toList = ds) : (s ++ t).toList = cs ++ ds := by
  rw [String.toList_append, hs, ht]

-- The pieces of the skeleton are opened as lists of characters one literal at a time, so that
-- evaluation meets lists and no strings.

/-- The skeleton's title is the first. -/
theorem title_ends_head :
    (splitAtFirst "<title>".toList shellHead.toList).map Prod.snd = some [] := by
  have hmark : "<title>".toList = _ := String.toList_ofList
  have hhead : shellHead.toList = _ :=
    toList_append_eq (toList_append_eq String.toList_ofList String.toList_ofList)
      String.toList_ofList
  rw [hmark, hhead]
  decide +kernel

/-- The skeleton's address is the first behind the title. -/
theorem source_ends_frame :
    (splitAtFirst "src=\"".toList (shellHeading ++ shellStyle ++ shellFrame).toList).map Prod.snd =
      some [] := by
  have hmark : "src=\"".toList = _ := String.toList_ofList
  have hstyle : shellStyle.toList = _ :=
    toList_append_eq (toList_append_eq (toList_append_eq String.toList_ofList String.toList_ofList)
      String.toList_ofList) String.toList_ofList
  have hframe : shellFrame.toList = _ := toList_append_eq String.toList_ofList String.toList_ofList
  have hall : (shellHeading ++ shellStyle ++ shellFrame).toList = _ :=
    toList_append_eq (toList_append_eq String.toList_ofList hstyle) hframe
  rw [hmark, hall]
  decide +kernel

/-- A title without angle brackets and an address without quotes are read as they stand. -/
theorem read?_append {front head title between middle source tail : List Char}
    (hfront : splitAtFirst "<title>".toList front = some (head, [])) (htitle : '<' ∉ title)
    (hbracket : between.head? = some '<')
    (hbetween : splitAtFirst "src=\"".toList between = some (middle, []))
    (hsource : '"' ∉ source) (hquote : tail.head? = some '"') :
    Regions.read? (front ++ (title ++ (between ++ (source ++ tail)))) =
      some ⟨head, title, middle, source, tail⟩ := by
  have hstop : (between ++ (source ++ tail)).head? = some '<' := by
    rw [List.head?_append, hbracket]
    rfl
  obtain ⟨htake, hdrop⟩ := Text.takeWhile_upTo htitle hstop
  obtain ⟨htake', hdrop'⟩ := Text.takeWhile_upTo hsource hquote
  rw [Regions.read?, Text.splitAtFirst_append_of_some hfront, Option.bind_some]
  dsimp only
  rw [List.nil_append, hdrop, htake, Text.splitAtFirst_append_of_some hbetween, Option.map_some]
  dsimp only
  rw [List.nil_append, htake', hdrop']

/-- What is around the title and the address of a skeleton is read alike for all of them. -/
theorem read?_skeleton (script : String) :
    ∃ head middle tail, ∀ title source : String, '<' ∉ title.toList → '"' ∉ source.toList →
      Regions.read? (shellSkeleton title shellStyle source script).toList =
        some ⟨head, title.toList, middle, source.toList, tail⟩ := by
  obtain ⟨⟨head, -⟩, hhead, rfl⟩ := Option.map_eq_some_iff.mp title_ends_head
  obtain ⟨⟨middle, -⟩, hmiddle, rfl⟩ := Option.map_eq_some_iff.mp source_ends_frame
  have hbracket : (shellHeading ++ shellStyle ++ shellFrame).toList.head? = some '<' := by
    rw [String.toList_append, String.toList_append,
      show shellHeading.toList = _ from String.toList_ofList]
    rfl
  have hquote : (shellScript ++ script ++ shellEnd).toList.head? = some '"' := by
    rw [String.toList_append, String.toList_append,
      show shellScript.toList = _ from String.toList_ofList]
    rfl
  refine ⟨head, middle, (shellScript ++ script ++ shellEnd).toList, fun title source ht hs => ?_⟩
  have hpage : (shellSkeleton title shellStyle source script).toList = shellHead.toList ++
      (title.toList ++ ((shellHeading ++ shellStyle ++ shellFrame).toList ++
        (source.toList ++ (shellScript ++ script ++ shellEnd).toList))) := by
    simp only [shellSkeleton, String.toList_append, List.append_assoc]
  rw [hpage]
  exact read?_append hhead ht hbracket hmiddle hs hquote

theorem not_mem_title {c : Char} (hc : c ∈ ['<', '>', '"', '\'']) (title : String) :
    c ∉ (escape title).toList := by
  rw [Text.toList_escape]
  exact Text.not_mem_escape hc _

theorem quote_not_mem_source (source : String) : '"' ∉ (escapeAttribute source).toList := by
  rw [Text.toList_escapeAttribute]
  exact Text.refers_attributeEntity.not_mem_escapeWith rfl (by decide) _

/-- A reader of a shell page finds the escaped title and the escaped address, and the same around
them for all titles and addresses. -/
theorem read?_shell (port : Nat) :
    ∃ head middle tail, ∀ title source : String,
      Regions.read? (shell title source port).toList =
        some ⟨head, (escape title).toList, middle, (escapeAttribute source).toList, tail⟩ := by
  obtain ⟨head, middle, tail, hread⟩ := read?_skeleton (reloadAt port)
  refine ⟨head, middle, tail, fun title source => ?_⟩
  rw [shell_eq_skeleton]
  exact hread _ _ (not_mem_title (by simp) title) (quote_not_mem_source source)

/-! ## The main theorem -/

/-- **The shell page keeps its title and its address in their regions.**

1. The page is the skeleton with the escaped title, the stylesheet, the escaped address and the
   reload script for the port. That script has the port in decimal where the script that is filled
   has its key.
2. A reader of the page finds the escaped title and the escaped address. There is no angle bracket
   in the one and no quote in the other, and decoding them gives the title and the address.
3. The page for another title and another address has what is escaped of them in the two regions,
   and differs nowhere else. -/
theorem shell_regions (title source : String) (port : Nat) :
    shell title source port =
      shellSkeleton (escape title) shellStyle (escapeAttribute source) (reloadAt port) ∧
    reloadScript = reloadHead ++ "__FENCEPLAY_WS_PORT__" ++ reloadTail ∧
    ∃ regions, Regions.read? (shell title source port).toList = some regions ∧
      regions.title = (escape title).toList ∧ regions.source = (escapeAttribute source).toList ∧
      '<' ∉ regions.title ∧ '>' ∉ regions.title ∧ '"' ∉ regions.source ∧
      decodeReferences regions.title = title.toList ∧
      decodeReferences regions.source = source.toList ∧
      ∀ title' source' : String, (shell title' source' port).toList =
        { regions with
          title := (escape title').toList
          source := (escapeAttribute source').toList }.text := by
  obtain ⟨head, middle, tail, hread⟩ := read?_shell port
  have hother : ∀ title' source' : String, (shell title' source' port).toList =
      Regions.text ⟨head, (escape title').toList, middle, (escapeAttribute source').toList, tail⟩ :=
    fun title' source' => (Regions.text_of_read? (hread title' source')).symm
  refine ⟨shell_eq_skeleton title source port, by rw [reloadScript], _, hread title source, ?_⟩
  dsimp only
  refine ⟨rfl, rfl, not_mem_title (by simp) title, not_mem_title (by simp) title,
    quote_not_mem_source source, ?_, ?_, hother⟩
  · rw [Text.toList_escape, Text.refers_textEntity.decodeReferences_escapeWith]
  · rw [Text.toList_escapeAttribute, Text.refers_attributeEntity.decodeReferences_escapeWith]

end LivePreview.Page
