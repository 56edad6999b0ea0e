import NetworkPlan.Environment.Basic
import NetworkPlan.Output.Summary

/-!
# Terminal output

The summary as it is printed: its rows and a closing line. On a terminal two words of the closing
line are coloured; variables of the environment can force colours or forbid them.
-/

namespace NetworkPlan
namespace Terminal

/-- Whether colours are used. A force other than zero has precedence, and then any prohibition;
without either, colours are for terminals, unless they are switched off with zero. -/
def usesColour (env : Environment) (isTerminal : Bool) : Bool :=
  match (env.get? "CLICOLOR_FORCE").filter (· ≠ "0"), env.get? "NO_COLOR" with
  | some _, _ => true
  | none, some _ => false
  | none, none => (env.get? "CLICOLOR").all (· ≠ "0") && isTerminal

/-- A text between the code of a colour and the code that ends it. -/
def paint (colour : Bool) (code : Nat) (text : String) : String :=
  if colour then s!"\x1b[{code}m" ++ text ++ "\x1b[0m" else text

def greenText : Nat := 32

def greenGround : Nat := 42

end Terminal

/-- The line after the rows. -/
def Plan.closingLine (p : Plan) (colour : Bool) : String :=
  "#" ++ Terminal.paint colour Terminal.greenGround "DONE"
    ++ s!"# {p.subnets.length} subnet(s) allocated, {p.freeBlocks.length} free block(s), firewall "
    ++ Terminal.paint colour Terminal.greenText p.routes.firewallAddress.toText

/-- Everything that is printed about a plan. -/
def Plan.report (p : Plan) (colour : Bool) : String :=
  String.join ((p.summaryRows ++ [p.closingLine colour]).map (· ++ "\n"))

end NetworkPlan
