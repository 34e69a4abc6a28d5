import LivePreview.Proofs.Json.Value
import LivePreview.Reload.Message

/-!
# Messages are told apart

A message is written as the object of its content, a kind and a field (`toJson_eq`). Objects of
texts are read as what they are, so whoever reads the text finds the kind and the field and nothing
else, whatever is in the field (`read_toJson`), and makes the message of them again
(`ofJson?_toJson`).
-/

namespace LivePreview.Reload.Message

/-- The content of a message: its kind, and the field of its kind. -/
def content : Message → List (List Char × List Char)
  | navigate url => [("type".toList, "navigate".toList), ("url".toList, url)]
  | closed => [("type".toList, "closed".toList)]
  | connected version => [("type".toList, "connected".toList), ("version".toList, version)]

section

variable (m : Message)

theorem toJson_eq : m.toJson = Json.compact m.content := by
  cases m <;> rfl

/-- The text is read as an object with the kind and the field of the message. -/
theorem read_toJson : Json.read m.toJson = some (Json.ofTexts m.content) := by
  rw [toJson_eq, Json.read_compact]

/-- An object of a kind and its field is a message. -/
theorem ofValue?_ofTexts : ofValue? (Json.ofTexts m.content) = some m := by
  cases m <;> rfl

theorem ofJson?_toJson : ofJson? m.toJson = some m := by
  rw [ofJson?, read_toJson]
  exact ofValue?_ofTexts m

end

/-- What a text is read as tells the message. -/
theorem read_toJson_inj {m m' : Message} (h : Json.read m.toJson = Json.read m'.toJson) :
    m = m' := by
  have hread : ofJson? m.toJson = ofJson? m'.toJson := by
    rw [ofJson?, ofJson?, h]
  rw [ofJson?_toJson, ofJson?_toJson] at hread
  exact Option.some.inj hread

/-- **Messages are told apart by their texts.** The text of a message is read as the message: it is
the object with the kind and the field of the message, each of them as it was, whatever characters
it has. The text has no control character, so that it stays on one line. Different messages have
different texts, and what they are read as is different too. -/
theorem told_apart_by_texts (m : Message) :
    ofJson? m.toJson = some m ∧
    Json.read m.toJson = some (Json.ofTexts m.content) ∧
    (∀ c ∈ m.toJson, ' ' ≤ c) ∧ '\r' ∉ m.toJson ∧ '\n' ∉ m.toJson ∧
    ∀ m' : Message, (m.toJson = m'.toJson ↔ m = m') ∧
      (Json.read m.toJson = Json.read m'.toJson ↔ m = m') := by
  have hle : ∀ c ∈ m.toJson, ' ' ≤ c := by
    rw [toJson_eq]
    exact Json.le_compact m.content
  refine ⟨ofJson?_toJson m, read_toJson m, hle, fun hcr => ?_, fun hlf => ?_, fun m' => ⟨?_, ?_⟩⟩
  · exact absurd (hle _ hcr) (by decide)
  · exact absurd (hle _ hlf) (by decide)
  · exact ⟨fun h => read_toJson_inj (congrArg Json.read h), congrArg toJson⟩
  · exact ⟨read_toJson_inj, congrArg fun m : Message => Json.read m.toJson⟩

/-- An address with a quote, a backslash, a line feed, another control character and one beyond the
basic plane. -/
theorem told_apart_by_texts_escaped :
    let m : Message := .navigate ['"', '\\', '\n', '\x1b', '😀']
    m.toJson = "\x7b\"type\":\"navigate\",\"url\":\"\\\"\\\\\\n\\u001b😀\"\x7d".toList ∧
      ofJson? m.toJson = some m ∧ '\\' ∈ m.toJson ∧ ' ' ≤ '\\' ∧
      m.toJson ≠ closed.toJson := by
  intro m
  have h := told_apart_by_texts m
  have hmem : '\\' ∈ m.toJson := by decide
  have hne : m ≠ closed := by decide
  exact ⟨rfl, h.1, hmem, h.2.2.1 '\\' hmem, fun heq => hne ((h.2.2.2.2.2 closed).1.mp heq)⟩

end LivePreview.Reload.Message
