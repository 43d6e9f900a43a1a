import NetSketch.Template.Lookup

/-!
# Explanations of diagrams

* `explanation?`: why a diagram looks as it does.
-/

namespace NetSketch

/-- The Korean labels of the types of a diagram, each once. -/
def Spec.typeLabels (s : Spec) : List String := (s.types.map (·.labelKo)).eraseDups

/-- **Why a diagram looks as it does**: a template was used, or types were detected. There is
nothing to say about an empty diagram. -/
def explanation? (spec : Option Spec) (template : Option String) : Option String :=
  match spec with
  | none => none
  | some s =>
    if s.nodes.isEmpty then none
    else
      let labels := s.typeLabels
      let parts := "구성: " ++ String.intercalate ", " labels
      match template.filter (!·.isEmpty) with
      | some id =>
        let known := Template.get? id
        let name := (known.map (·.name)).getD id
        let description := (known.map (·.description)).toList.filter (!·.isEmpty)
        some (String.intercalate "\n" (("「" ++ name ++ "」 템플릿이 적용되었습니다.") ::
          description ++ [parts]))
      | none =>
        some ("요청하신 내용에서 다음 구성요소를 감지하여 인프라를 생성했습니다.\n" ++ parts ++ " (" ++
          Nat.repr labels.length ++ "개 컴포넌트)")

end NetSketch
