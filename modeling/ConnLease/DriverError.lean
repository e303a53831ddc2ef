import ConnLease.SqlState

/-!
# Driver errors

What a driver reports when a call fails: a message, a vendor code, and a SQLSTATE if it knows one.
-/

namespace ConnLease

structure DriverError where
  message : String
  sqlState : Option SqlState := none
  vendorCode : Int := 0
deriving Repr, DecidableEq

namespace DriverError

def withSqlState (e : DriverError) (code : String) : DriverError :=
  { e with sqlState := some ⟨code⟩ }

def withVendorCode (e : DriverError) (code : Int) : DriverError := { e with vendorCode := code }

/-- The message, followed by the SQLSTATE in parentheses if there is one. -/
def text (e : DriverError) : String :=
  match e.sqlState with
  | some s => e.message ++ " (SQLSTATE " ++ s.code ++ ")"
  | none => e.message

end DriverError

end ConnLease
