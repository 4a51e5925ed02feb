import StreamLabel.Definition
import StreamLabel.Proofs.Json.Text
import StreamLabel.Proofs.Template.Span

/-!
# Definitions are read back

The text of a definition begins with its marker and ends with a brace, so cutting blanks from its ends
takes nothing of it away. Behind the marker stands an object of two texts. It is read as plain JSON,
whatever the texts hold, so that the frame for pasted templates is never looked for (`read_text`).
-/

namespace StreamLabel
open Unicode

/-- Blanks around a text that has none at its ends are all that is cut. -/
theorem strip_append {front cs back : List Char} (hfront : ∀ c ∈ front, isBlank c = true)
    (hback : ∀ c ∈ back, isBlank c = true) (hfirst : Stops isBlank (cs ++ back))
    (hlast : Stops isBlank cs.reverse) : strip (front ++ (cs ++ back)) = cs := by
  rw [strip, stripBy, stripRight, Stops.dropWhile_append hfront hfirst, List.reverse_append,
    Stops.dropWhile_append (by simpa using hback) hlast, List.reverse_reverse]

theorem Json.afterToken?_append (token : String) (cs : List Char) :
    afterToken? token (token.toList ++ cs) = some cs := by
  rw [afterToken?, if_pos (List.isPrefixOf_iff_prefix.2 (List.prefix_append ..)), ← String.length_toList,
    List.drop_left]

namespace Definition

/-- What a definition is written as behind the marker. -/
def body (d : Definition) : String :=
  Json.print .compact (.object [("name", .text d.name), ("description", .text d.description)])

/-- The fields of the body, up to its closing brace. -/
def bodyFields (d : Definition) : List Char :=
  (Json.quote false "name").toList ++ ':' :: ((Json.quote false d.name).toList ++
    ',' :: ((Json.quote false "description").toList ++ ':' ::
      ((Json.quote false d.description).toList ++ ['\x7d'])))

theorem toList_body (d : Definition) : d.body.toList = '\x7b' :: d.bodyFields := by
  simp [body, bodyFields, Json.print, Json.printFields, Json.Style.compact, String.toList_append]

theorem bodyFields_eq_cons (d : Definition) : ∃ cs, d.bodyFields = '"' :: 'n' :: cs := ⟨_, rfl⟩

theorem parts_bodyFields (d : Definition) (depth fuel : Nat) :
    Json.parts (Json.fieldFrom (Json.valueFrom depth)) '\x7d' (fuel + 2) d.bodyFields =
      some ([("name", .text d.name), ("description", .text d.description)], []) := by
  have hdescription := Json.fieldFrom_quote depth "description" d.description ['\x7d']
  rw [← Json.skipBlanks_quote] at hdescription
  have hname := Json.fieldFrom_quote depth "name" d.name
    (',' :: ((Json.quote false "description").toList ++ ':' ::
      ((Json.quote false d.description).toList ++ ['\x7d'])))
  rw [← Json.skipBlanks_quote] at hname
  rw [bodyFields, Json.parts_comma hname, Json.parts_closer hdescription (by decide) (by decide)]
  rfl

/-- The body is the object of the two texts to a strict reader. -/
theorem read_body (d : Definition) :
    Json.read d.body.toList =
      some (.object [("name", .text d.name), ("description", .text d.description)]) := by
  obtain ⟨cs, hcs⟩ := d.bodyFields_eq_cons
  have hparts := d.parts_bodyFields 199 cs.length
  have henclosed : Json.enclosed (Json.fieldFrom (Json.valueFrom 199)) '\x7d' d.bodyFields =
      some ([("name", .text d.name), ("description", .text d.description)], []) := by
    rw [hcs] at hparts ⊢
    exact hparts
  have hblank : Json.skipBlanks ('\x7b' :: d.bodyFields) = '\x7b' :: d.bodyFields := rfl
  have hdepth : Json.depthLimit = 199 + 1 := rfl
  rw [toList_body, Json.read, hblank, hdepth, Json.valueFrom, henclosed]
  rfl

theorem ofJson_body (d : Definition) : ofJson d.body.toList = .ok d := by
  rw [ofJson, read_body]
  rfl

theorem exists_body_eq (d : Definition) : ∃ cs, d.body.toList = '\x7b' :: (cs ++ ['\x7d']) := by
  rw [toList_body, bodyFields]
  simp only [← List.cons_append, ← List.append_assoc]
  exact ⟨_, rfl⟩

/-! ### What is exchanged -/

section Payload

variable {body front back : String} {cs : List Char}
  (hbody : body.toList = '\x7b' :: (cs ++ ['\x7d'])) (hfront : ∀ c ∈ front.toList, isBlank c = true)
  (hback : ∀ c ∈ back.toList, isBlank c = true)
include hbody hfront hback

/-- Behind the marker, what stands in braces is left when the blanks are cut. -/
theorem payload_marked : payload (front ++ (marker ++ body) ++ back) = body.toList := by
  have hstrip : strip (front ++ (marker ++ body) ++ back).toList = marker.toList ++ body.toList := by
    rw [String.toList_append, String.toList_append, List.append_assoc, String.toList_append]
    refine strip_append hfront hback (Stops.cons_iff.2 (by decide)) ?_
    rw [List.reverse_append, hbody, List.reverse_cons, List.reverse_concat]
    exact Stops.cons_iff.2 (by decide)
  rw [payload, hstrip, Json.afterToken?_append]
  rfl

/-- Without the marker nothing is cut but blanks: a brace begins no marker. -/
theorem payload_unmarked : payload (front ++ body ++ back) = body.toList := by
  have hstrip : strip (front ++ body ++ back).toList = body.toList := by
    rw [String.toList_append, String.toList_append, List.append_assoc]
    refine strip_append hfront hback ?_ ?_
    · rw [hbody]
      exact Stops.cons_iff.2 (by decide)
    · rw [hbody, List.reverse_cons, List.reverse_concat]
      exact Stops.cons_iff.2 (by decide)
  have hmarker : Json.afterToken? marker body.toList = none := by
    rw [hbody]
    rfl
  rw [payload, hstrip, hmarker]
  rfl

end Payload

theorem payload_text (d : Definition) {front back : String}
    (hfront : ∀ c ∈ front.toList, isBlank c = true) (hback : ∀ c ∈ back.toList, isBlank c = true) :
    payload (front ++ d.text ++ back) = d.body.toList :=
  let ⟨_, hbody⟩ := d.exists_body_eq
  payload_marked hbody hfront hback

theorem payload_body (d : Definition) {front back : String}
    (hfront : ∀ c ∈ front.toList, isBlank c = true) (hback : ∀ c ∈ back.toList, isBlank c = true) :
    payload (front ++ d.body ++ back) = d.body.toList :=
  let ⟨_, hbody⟩ := d.exists_body_eq
  payload_unmarked hbody hfront hback

theorem read_of_payload {d : Definition} {s : String} (h : payload s = d.body.toList) :
    read s = .ok d := by
  rw [read, h, ofJson_body, toList_body, if_neg (by simp)]

/-- The text of a definition is read as the definition by the strict reader alone, with and without the
marker in front, and whatever blanks stand around it. -/
theorem read_text (d : Definition) (front back : String)
    (hfront : ∀ c ∈ front.toList, isBlank c = true) (hback : ∀ c ∈ back.toList, isBlank c = true) :
    ∃ body, d.text = marker ++ body ∧ ofJson body.toList = .ok d ∧
      read (front ++ d.text ++ back) = .ok d ∧ read (front ++ body ++ back) = .ok d :=
  ⟨d.body, rfl, d.ofJson_body, read_of_payload (d.payload_text hfront hback),
    read_of_payload (d.payload_body hfront hback)⟩

/-- The texts of a definition may look like a definition, or like the frame. -/
theorem read_text_lookalike :
    let frame := "\",\"description\":\""
    let lookalike := "custom:\x7b\"name\":\"\\u0041\",\"description\":\"\"\x7d"
    let d : Definition := ⟨frame ++ "\x00\n\\" ++ frame, lookalike⟩
    let front := "\u2003\n"
    let back := " \x1f"
    (∀ c ∈ front.toList, isBlank c = true) ∧ (∀ c ∈ back.toList, isBlank c = true) ∧
      read (front ++ d.text ++ back) = .ok d := by
  intro frame lookalike d front back
  have hfront : ∀ c ∈ front.toList, isBlank c = true := List.all_eq_true.1 (by decide)
  have hback : ∀ c ∈ back.toList, isBlank c = true := List.all_eq_true.1 (by decide)
  obtain ⟨-, -, -, hread, -⟩ := read_text d front back hfront hback
  exact ⟨hfront, hback, hread⟩

end Definition

end StreamLabel
