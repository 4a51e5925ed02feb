import StreamLabel.Proofs.Render.Outcome
import StreamLabel.Proofs.Template.Append

/-!
# Renderings one after the other

A tree that was read later in a text is rendered as before, with later placeholders in its diagnostics,
and nodes that are joined are rendered one after the other. So a template of two texts shows what
the templates of the two texts show (`parse_append`).
-/

namespace StreamLabel

def Diagnostic.shift (k : Nat) (d : Diagnostic) : Diagnostic :=
  { d with placeholder := d.placeholder.shift k }

def Diagnostic.ShiftedBy (k : Nat) (d e : Diagnostic) : Prop := e = d.shift k

theorem Diagnostic.shiftedBy {k : Nat} {p q : Node} (h : q = p.shift k) (anomaly : Anomaly) :
    ShiftedBy k ⟨anomaly, p⟩ ⟨anomaly, q⟩ := by
  subst h
  rfl

namespace Renderer
variable {r : Renderer} {c : Context} {depth : Nat} {n : Node} {ns ms : List Node}

mutual

/-- Where a tree was read shows in its diagnostics only. -/
theorem renderNode_shift (k : Nat) (r : Renderer) (c : Context) (depth : Nat) : (n : Node) →
    Alike (Diagnostic.ShiftedBy k) (r.renderNode c depth n) (r.renderNode c depth (n.shift k))
  | .literal s => by simp only [Node.shift, renderNode]; exact .pure _
  | .value o ref => by
    simp only [Node.shift, renderNode]
    exact (Alike.ofWritten _).bind fun _ => .ofWritten _
  | .formatted o ref f => by
    simp only [Node.shift, renderNode]
    exact (Alike.ofWritten _).bind fun _ =>
      format_alike rfl (fun anomaly _ => Diagnostic.shiftedBy rfl anomaly) ..
  | .choice o ref condition yes no => by
    rw [Node.shift]
    exact renderNode_choice_alike (fun anomaly => Diagnostic.shiftedBy (by rw [Node.shift]) anomaly)
      (fun _ => renderNodes_shift k r c (depth + 1) yes)
      fun _ => renderNodes_shift k r c (depth + 1) no

theorem renderNodes_shift (k : Nat) (r : Renderer) (c : Context) (depth : Nat) : (ns : List Node) →
    Alike (Diagnostic.ShiftedBy k) (r.renderNodes c depth ns)
      (r.renderNodes c depth (Node.shiftAll k ns))
  | [] => by rw [Node.shiftAll, renderNodes]; exact .pure _
  | n :: ns => by
    rw [Node.shiftAll]
    exact renderNodes_cons_alike (renderNode_shift k r c depth n) (renderNodes_shift k r c depth ns)

end

theorem renderNodes_cons_yields {o p : Outcome String} (hn : Yields (r.renderNode c depth n) o)
    (hns : Yields (r.renderNodes c depth ns) p) :
    Yields (r.renderNodes c depth (n :: ns)) (o.followedBy p) := by
  rw [renderNodes]
  exact hn.bind fun _ => hns.bind fun _ => .pure _

theorem exists_yields_node (r : Renderer) (c : Context) (depth : Nat) (n : Node) :
    ∃ o, Yields (r.renderNode c depth n) o := by
  obtain ⟨o, -, h, -⟩ := renderNode_shift 0 r c depth n
  exact ⟨o, h⟩

theorem exists_yields (r : Renderer) (c : Context) (depth : Nat) (ns : List Node) :
    ∃ o, Yields (r.renderNodes c depth ns) o := by
  obtain ⟨o, -, h, -⟩ := renderNodes_shift 0 r c depth ns
  exact ⟨o, h⟩

/-- Nodes that are joined are rendered one after the other. -/
theorem renderNodes_join {o p : Outcome String} (hns : Yields (r.renderNodes c depth ns) o)
    (hms : Yields (r.renderNodes c depth ms) p) :
    Yields (r.renderNodes c depth (Node.join ns ms)) (o.followedBy p) := by
  have hliteral : ∀ s, Yields (r.renderNode c depth (.literal s)) { result := .ok s } := by
    intro s
    rw [renderNode]
    exact .pure s
  have hnil : Yields (r.renderNodes c depth []) { result := .ok "" } := by
    rw [renderNodes]
    exact .pure ""
  induction ns, ms using Node.join.induct generalizing o p with
  | case1 ms =>
    obtain rfl := hns.unique hnil
    rw [Outcome.empty_followedBy]
    exact hms
  | case2 s t ms =>
    obtain ⟨q, hq⟩ := r.exists_yields c depth ms
    obtain rfl := hns.unique (renderNodes_cons_yields (hliteral s) hnil)
    obtain rfl := hms.unique (renderNodes_cons_yields (hliteral t) hq)
    rw [Outcome.followedBy_assoc, Outcome.empty_followedBy, ← Outcome.followedBy_assoc]
    exact renderNodes_cons_yields (hliteral (s ++ t)) hq
  | case3 n ns ms hjoin ih =>
    obtain ⟨a, ha⟩ := r.exists_yields_node c depth n
    obtain ⟨b, hb⟩ := r.exists_yields c depth ns
    obtain rfl := hns.unique (renderNodes_cons_yields ha hb)
    rw [Node.join.eq_3 _ _ _ hjoin, Outcome.followedBy_assoc]
    exact renderNodes_cons_yields ha (ih hb hms)

end Renderer

/-- The same outcome for a tree that was read `k` characters later. -/
def Outcome.shift {α : Type} (k : Nat) (o : Outcome α) : Outcome α :=
  { o with diagnostics := o.diagnostics.map (Diagnostic.shift k) }

/-- The same error of a text that follows `a`. -/
def ParseError.behind (a : CodePoints) (e : ParseError) : ParseError :=
  ⟨e.cause, a.length + e.position, a.text.utf8ByteSize + e.byteOffset⟩

namespace Template.Failure
variable {e : ParseError}

theorem ofError_behind (h : e.cause.isWritable = true) (a b : CodePoints) :
    ofError (a ++ b) (e.behind a) =
      match CodePoints.unencodable? (a ++ b.take e.position) with
      | none => .error (e.behind a)
      | some u => .unencodable u := by
  have hcut : (a ++ b).take (e.behind a).position = a ++ b.take e.position :=
    List.take_length_add_append ..
  simp only [ofError, hcut]
  exact if_pos h

/-- In a text that follows, the halves in `a` count for those of the text. -/
theorem ofError_behind_of_reportable {b : CodePoints} (h : e.Reportable b) (a : CodePoints) :
    ofError (a ++ b) (e.behind a) =
      match a.unencodable? with
      | none => .error (e.behind a)
      | some u => .unencodable u := by
  rw [ofError_behind h.1,
    CodePoints.unencodable?_append_right a (CodePoints.unencodable?_eq_none_iff.2 h.2)]

theorem exists_ofError_behind {b : CodePoints} {u : Unencodable} (h : e.cause.isWritable = true)
    (hu : CodePoints.unencodable? (b.take e.position) = some u) (a : CodePoints) :
    ∃ v, ofError (a ++ b) (e.behind a) = .unencodable v ∧
      (a.unencodable? = none → v = ⟨a.length + u.position, u.halves⟩) := by
  rw [ofError_behind h]
  cases hv : CodePoints.unencodable? (a ++ b.take e.position) with
  | none =>
    rw [CodePoints.unencodable?_eq_none_iff] at hv
    have hnone := CodePoints.unencodable?_eq_none_iff.2 fun n hn => hv n (List.mem_append_right a hn)
    cases hnone.symm.trans hu
  | some v =>
    refine ⟨v, rfl, fun ha => ?_⟩
    rw [CodePoints.unencodable?_append_left ha, hu] at hv
    exact (Option.some.inj hv).symm

end Template.Failure

/-- Where `a` is a template, the text of a template `b` may follow it: the nodes are those of both,
those of `b` moved behind `a`, and every rendering is that of `a` and then, unless that fails, that of
`b`. An error of `b` stays, moved in the same way, unless `a` holds halves of surrogate pairs. If it
is not reported in `b`, it is not reported behind `a`. -/
theorem parse_append {a : CodePoints} {limit : Int} {t : Template} (h : Template.read a limit = .ok t)
    (b : CodePoints) :
    (∀ u, Template.read b limit = .ok u →
      let v : Template :=
        ⟨Node.join t.nodes (Node.shiftAll a.length u.nodes), CodePoints.text (a ++ b)⟩
      Template.read (a ++ b) limit = .ok v ∧
        ∀ (r : Renderer) (c : Context), ∃ o p : Outcome String,
          Yields (r.render t c) o ∧ Yields (r.render u c) p ∧
          Yields (r.render v c) (o.followedBy (p.shift a.length))) ∧
    (∀ e, Template.read b limit = .error (.error e) →
      Template.read (a ++ b) limit = .error (match a.unencodable? with
        | none => .error (e.behind a)
        | some u => .unencodable u)) ∧
    (∀ u, Template.read b limit = .error (.unencodable u) →
      ∃ v, Template.read (a ++ b) limit = .error (.unencodable v) ∧
        (a.unencodable? = none → v = ⟨a.length + u.position, u.halves⟩)) ∧
    ∀ u, Template.read b limit = .error (.unwritable u) →
      Template.read (a ++ b) limit = .error (.unwritable u) := by
  have hab := parse_append_eq (Template.read_eq_ok_iff.1 h) b.text
  rw [← CodePoints.text_append, CodePoints.length_text] at hab
  cases hparse : Template.parse b.text limit with
  | ok u' =>
    rw [hparse] at hab
    have hread := Template.read_eq_ok_iff.2 hparse
    refine ⟨fun u hu => ⟨?_, fun r c => ?_⟩, ?_, ?_, ?_⟩
    · obtain rfl := Except.ok.inj (hread.symm.trans hu)
      exact Template.read_eq_ok_iff.2 hab
    · obtain ⟨o, ho⟩ := r.exists_yields c 0 t.nodes
      obtain ⟨p, p', hp, hp', hcorr⟩ := Renderer.renderNodes_shift a.length r c 0 u.nodes
      obtain rfl : p' = p.shift a.length := hcorr.eq_map fun _ _ h => h
      exact ⟨o, p, ho, hp, Renderer.renderNodes_join ho hp'⟩
    all_goals
      intro f hf
      cases hread.symm.trans hf
  | error e' =>
    rw [hparse] at hab
    have hread := Template.read_eq_error_iff.2 ⟨e', hparse, rfl⟩
    have hreads : Template.read (a ++ b) limit = .error (.ofError (a ++ b) (e'.behind a)) :=
      Template.read_eq_error_iff.2 ⟨_, hab, rfl⟩
    rw [hread, hreads]
    refine ⟨nofun, ?_⟩
    rcases Template.Failure.ofError_cases b e' with ⟨hreported, hreportable⟩ | hhidden
    · rw [hreported, Template.Failure.ofError_behind_of_reportable hreportable]
      exact ⟨fun e he => by cases he; rfl, nofun, nofun⟩
    · generalize Template.Failure.ofError b e' = f at hhidden
      cases hhidden with
      | bytes hwritten hhalves =>
        refine ⟨nofun, fun u hu => ?_, nofun⟩
        cases hu
        obtain ⟨v, hv, hmoved⟩ := Template.Failure.exists_ofError_behind hwritten hhalves a
        exact ⟨v, by rw [hv], hmoved⟩
      | digits hunwritten =>
        refine ⟨nofun, nofun, fun u hu => ?_⟩
        cases hu
        rw [Template.Failure.ofError, ParseError.behind, hunwritten]
        rfl

/-- Literal text runs on across the seam, and what is behind it has moved by the 29 characters, 30
bytes, in front. -/
theorem parse_append_accent :
    let a := "\x7bstream.title::=x[\"\u00e9\"||\"\"]\x7d -"
    let front : Node :=
      .choice ⟨0, "\u00e9", ""⟩ ⟨.stream, "title"⟩ (.compare .eq "x") [.literal "\u00e9"] []
    Template.read (.ofString a) 32 = .ok ⟨[front, .literal " -"], a⟩ ∧
      Template.read (.ofString a ++ .ofString " \x7bstream.year\x7d") 32 =
        .ok ⟨[front, .literal " - ", .value ⟨30, "", ""⟩ ⟨.stream, "year"⟩],
          a ++ " \x7bstream.year\x7d"⟩ ∧
      Template.read (.ofString a ++ .ofString "\x7bstream title\x7d") 32 =
        .error (.error ⟨.expected .dot, 37, 38⟩) := by
  intro a front
  have ha : Template.read (.ofString a) 32 = .ok ⟨[front, .literal " -"], a⟩ := by
    rw [Template.read_ofString_eq_ok_iff]
    cbv
  have hb : Template.read (.ofString " \x7bstream.year\x7d") 32 =
      .ok ⟨[.literal " ", .value ⟨1, "", ""⟩ ⟨.stream, "year"⟩], " \x7bstream.year\x7d"⟩ := by
    rw [Template.read_ofString_eq_ok_iff]
    cbv
  have he : Template.parse "\x7bstream title\x7d" 32 = .error ⟨.expected .dot, 8, 8⟩ := by cbv
  have hlength : (CodePoints.ofString a).length = 29 := by decide
  have hbytes : (CodePoints.ofString a).text.utf8ByteSize = 30 := by
    rw [CodePoints.text_ofString]
    decide
  obtain ⟨hok, -⟩ := (parse_append ha _).1 _ hb
  have herror := (parse_append ha _).2.1 _ (Template.read_ofString_of_error he rfl)
  rw [hlength, CodePoints.text_append, CodePoints.text_ofString, CodePoints.text_ofString] at hok
  rw [CodePoints.unencodable?_ofString, ParseError.behind, hlength, hbytes] at herror
  exact ⟨ha, hok, herror⟩

/-- The error of a text is not reported any more when half of a surrogate pair precedes the text. -/
theorem exists_append_hides :
    ¬ ∀ (a b : CodePoints) (limit : Int) (t : Template) (e : ParseError),
      Template.read a limit = .ok t → Template.read b limit = .error (.error e) →
        Template.read (a ++ b) limit = .error (.error (e.behind a)) := by
  intro h
  have ha : Template.read [0xd800] 32 = .ok ⟨[.literal "\ufffd"], "\ufffd"⟩ := by cbv
  have hb : Template.read [0x7b] 32 = .error (.error ⟨.missingBrace, 0, 0⟩) := by cbv
  have hab : Template.read [0xd800, 0x7b] 32 = .error (.unencodable ⟨0, [0xd800]⟩) := by cbv
  cases hab.symm.trans (h _ _ _ _ _ ha hb)

end StreamLabel
