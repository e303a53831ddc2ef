/-!
# Borrow places

Where a connection was borrowed, as a leak report shows it: a line of the program that borrowed it,
which the library leaves to its caller, and the name of the thread if it has one.
-/

namespace ConnLease.Leak

structure BorrowPlace where
  thread : Option String
deriving Repr, DecidableEq

/-- What a report shows behind the line of the program. -/
def BorrowPlace.suffix (p : BorrowPlace) : String :=
  match p.thread with
  | some name => " on thread '" ++ name ++ "'"
  | none => ""

end ConnLease.Leak
