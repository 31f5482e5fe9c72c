import MultiWallet.Dialogue.Basic

set_option autoImplicit false

namespace MultiWallet

inductive Reporter where
  | external
  | counting
deriving DecidableEq, Repr

def Reporter.report (reporter : Reporter) (tag : String) (cause : Failure) : Dialogue Unit :=
  match reporter with
  | external => do
    let answer : Unit ← Dialogue.ask (.report tag cause)
    return answer
  | counting => Dialogue.count (.swallowed tag)

end MultiWallet
