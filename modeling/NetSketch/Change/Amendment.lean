import NetSketch.Change.Addition

/-!
# Modification of nodes

A node may get another label, another position or another type, or be removed after all.

* `Renaming`, `renaming?`: what a prompt wants to be called how;
* `reposition`, `retype`, `modify`.
-/

namespace NetSketch

open Number Prompt Text Text.Pattern

/-! ## Labels and types -/

/-- A node with another label; an empty one stands for that of its type. -/
def Node.relabel (n : Node) (label : String) : Node :=
  { n with label := if label.isEmpty then n.type.label else label }

/-- A node with another type and its tier. -/
def Node.retype (n : Node) (type : Component) (label : String) : Node :=
  { n with type, tierOverride := none, label := if label.isEmpty then type.label else label }

/-- What is to be called how. -/
structure Renaming where
  target : String
  label : String
  deriving DecidableEq, Repr

namespace Prompt

/-- Quotation marks. -/
def quoteMarks : String := "\"'“”‘’「」"

/-- A text between quotation marks. -/
def quotedText : Pattern :=
  one (.of quoteMarks) ++ group 1 (plus (one (.butNot quoteMarks))) ++ one (.of quoteMarks)

/-- As little as possible of a line. -/
def little : Pattern := plusFew (one .inLine)

/-- An English request for a label. -/
def englishRenaming : Pattern :=
  "rename" ++ someBlanks ++ opt ("the" ++ someBlanks) ++ group 1 little ++ someBlanks ++
    anyOf ["to", "as"] ++ someBlanks ++ group 2 little ++ opt (one (.of ".!")) ++ finish

/-- The start of a line. A piece that begins with any part of a line is found there anyhow. -/
def lineStart : Pattern := notAfter [.inLine]

/-- A Korean request for a label. -/
def koreanRenaming : Pattern :=
  lineStart ++ group 1 little ++ blanks ++ opt ("의" ++ blanks) ++ anyOf ["이름", "라벨", "레이블"] ++ opt "을" ++
    blanks ++ group 2 little ++ blanks ++ anyOf ["으로", "로"] ++ blanks ++
    anyOf ["변경", "바꿔", "수정"]

/-- **What a prompt wants to be called how.** The label is quoted or named by a phrase. -/
def renaming? (prompt : String) : Option Renaming :=
  match quotedText.find true prompt with
  | some m =>
    let cs := prompt.toList
    some ⟨.ofList (cs.take m.start ++ cs.drop m.finish), trim ((m.group? 1).getD "")⟩
  | none =>
    ((englishRenaming.find true prompt) <|> (koreanRenaming.find true prompt)).map fun m =>
      ⟨(m.group? 1).getD "", trim ((m.group? 2).getD "")⟩

/-- The words that ask for a removal. -/
def removalWords : Pattern :=
  firstOf ["삭제", "제거", "없애", "빼", word ["remove", "delete", "drop"]]

end Prompt

/-! ## Positions -/

/-- A node moved to a spot; the order of the nodes stays. -/
def Spec.move (s : Spec) (n : Node) (spot : Spot) : Except Breach Spec := do
  let (without, _) := s.removeAll [n.id]
  let t ← (← without.addNode n).place n.id spot
  Spec.check ⟨s.nodes, t.connections, t.zones⟩

/-- **A node moved on request.** -/
def reposition (store : Store) (prompt : String) (s : Spec) (hint : Hint)
    (intent : Option Intent) : Reading Outcome := do
  let ref := s.resolve? hint.reference
  let second := s.resolve? hint.second
  let asked := wantedBy intent
  let named := if asked.isEmpty then s.named prompt
    else asked.flatMap fun w => s.nodesOfType w.type
  match named.filter fun n => !([ref, second].contains (some n)) with
  | [] => return .failed .modify .nothingToModifyFound none
  | n :: _ =>
    let t ← .ofBreach (s.move n (.of (some hint) ref second))
    advised store s t [n.type]
      { command := .modify, spec := t, confidence := confidenceBy intent
        modifications := s.connectionChanges t }

/-! ## Modification -/

/-- A change of one label. -/
def relabelled (store : Store) (s : Spec) (n : Node) (label : String) (confidence : Binary64) :
    Reading Outcome := do
  let t ← .ofBreach (s.updateNode n.id (·.relabel label))
  advised store s t [n.type]
    { command := .modify, spec := t, confidence, modifications := [.relabel n.id label] }

/-- The label that components give to a type; the last one counts. -/
def labelFor (wanted : List Wanted) (type : Component) : Option String :=
  wanted.foldl (fun label w =>
    if w.type = type then (w.label.filter (!·.isEmpty)) <|> label else label) none

/-- **Nodes that become another type on request.** The first type that is present becomes the
first other one. -/
def retype (store : Store) (prompt : String) (s : Spec) (intent : Option Intent) :
    Reading Outcome := do
  let asked := wantedBy intent
  let types := if asked.isEmpty then (mentions (lower prompt)).map (·.type)
    else asked.map (·.type)
  match types.find? s.types.contains with
  | none => return .failed .modify .nothingToModify none
  | some old =>
    match types.find? (· != old), labelFor asked old, s.nodesOfType old with
    | some new, _, nodes =>
      let label := (labelFor asked new).getD ""
      let t ← nodes.foldlM (fun (t : Spec) n =>
        .ofBreach (t.updateNode n.id (·.retype new label))) s
      advised store s t [new]
        { command := .modify, spec := t, confidence := confidenceBy intent
          modifications := nodes.map fun n => .retype n.id new }
    | none, some label, n :: _ => relabelled store s n label (confidenceBy intent)
    | none, _, _ => return .failed .modify .nothingToModify none

/-- **Nodes modified on request.** -/
def modify (store : Store) (prompt : String) (spec : Option Spec) (intent : Option Intent) :
    Reading Outcome := do
  match spec with
  | none => return .failed .modify .noDiagram none
  | some s =>
    if intent.isNone && removalWords.occurs true prompt then
      return (← remove store prompt s none).recast .modify
    match renaming? prompt with
    | some r =>
      match s.named r.target with
      | [] => return .failed .modify .nothingToModifyFound none
      | n :: _ => relabelled store s n r.label (confidenceBy intent)
    | none =>
      match hintBy intent prompt with
      | some hint => reposition store prompt s hint intent
      | none => retype store prompt s intent

end NetSketch
