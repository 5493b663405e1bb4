set_option autoImplicit false

/-! Cancellation tokens. A pool remembers every token it issued and which of them have fired; a fired
token stays fired. -/

namespace Sluice

/-- One entry per issued token, in order of issue: whether it has fired. -/
structure TokenPool where
  fired : List Bool
deriving DecidableEq

abbrev TokenId := Nat

namespace TokenPool

def single : TokenPool :=
  { fired := [false] }

def isFired (pool : TokenPool) (token : TokenId) : Bool :=
  pool.fired.getD token false

def fire (pool : TokenPool) (token : TokenId) : TokenPool :=
  { fired := pool.fired.set token true }

def fresh (pool : TokenPool) : TokenId :=
  pool.fired.length

def issue (pool : TokenPool) : TokenPool :=
  { fired := pool.fired ++ [false] }

end Sluice.TokenPool
