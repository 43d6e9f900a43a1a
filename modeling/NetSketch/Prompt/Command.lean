import NetSketch.Prompt.Words
import NetSketch.Text.Case

/-!
# Commands in prompts

* `Command`; `command`: what a prompt asks for.
-/

namespace NetSketch

open Text Text.Pattern

/-- What is asked for. -/
inductive Command where
  | create
  | add
  | remove
  | modify
  | connect
  | disconnect
  | query
  deriving DecidableEq, Repr

namespace Command

/-- All commands. -/
def all : List Command := [.create, .add, .remove, .modify, .connect, .disconnect, .query]

/-- The name of a command. -/
def name : Command → String
  | create => "create"
  | add => "add"
  | remove => "remove"
  | modify => "modify"
  | connect => "connect"
  | disconnect => "disconnect"
  | query => "query"

end Command

namespace Prompt

/-- One of several words between word edges. -/
def word (texts : List String) : Pattern := wordEdge ++ anyOf texts ++ wordEdge

/-- One of several texts at the start. -/
def opening (texts : List String) : Pattern := start ++ anyOf texts

/-- One of several words at the start. -/
def openingWord (texts : List String) : Pattern := start ++ anyOf texts ++ wordEdge

/-- One of several texts at the end, before a full stop or an exclamation mark. -/
def closing (texts : List String) : Pattern := anyOf texts ++ opt (one (.of ".!")) ++ finish

/-- The patterns of commands in the order in which they are tried. To cut a connection is asked
for before to remove or to connect, because it is said with the words of both. -/
def commandRules : List (Pattern × Command) :=
  [ (firstOf ["연결" ++ far ++ anyOf ["해제", "끊", "삭제", "제거"], "끊어",
      word ["disconnect", "unlink"],
      wordEdge ++ anyOf ["remove", "delete"] ++ someBlanks ++ opt ("the" ++ someBlanks) ++
        anyOf ["connection", "link", "edge"]], .disconnect),
    (firstOf [opening ["추가", "붙여", "넣어", "더해"],
      openingWord ["add", "insert", "append", "include"]], .add),
    (closing ["추가해줘", "추가해", "추가", "붙여줘", "넣어줘", "더해줘"], .add),
    (firstOf [opening ["삭제", "제거", "없애", "빼"], openingWord ["remove", "delete", "drop"]],
      .remove),
    (closing ["삭제해줘", "삭제해", "삭제", "제거해줘", "제거해", "제거", "없애줘", "빼줘"], .remove),
    (firstOf [opening ["수정", "변경", "바꿔", "이동"],
      openingWord ["modify", "change", "update", "rename", "move", "replace"]], .modify),
    (closing ["수정해줘", "수정해", "변경해줘", "변경해", "바꿔줘", "옮겨줘", "이동해줘"], .modify),
    (anyOf ["앞에", "뒤에", "사이에", "위에", "아래에"], .add),
    (firstOf ["연결", word ["connect", "link"]], .connect),
    (firstOf ["?" ++ finish, "뭐야", "뭔가요", "알려줘", "설명해",
      openingWord ["what", "why", "how", "explain", "describe"]], .query) ]

/-- **The command of a prompt**; to create is what no other pattern asks for. -/
def command (s : String) : Command :=
  let s := lower (trim s)
  ((commandRules.find? fun (p, _) => p.occurs true s).map (·.2)).getD .create

end Prompt

end NetSketch
