import OtaCompile.Path
import OtaCompile.Text.Blank

/-!
# Accounts

Where the home directory of an account is written: the status of a running program gives the number
of its user, and a list of accounts has a line per user.
-/

namespace OtaCompile.Host

/-- The number of the user for whom a program runs, from the program's status. -/
def userNumber? (status : String) : Option String :=
  (Text.split '\n' status).findSome? fun line =>
    match Text.words line with
    | "Uid:" :: user :: _ => some user
    | _ => none

/-- The home directory of a user: the sixth of the seven fields of a line. -/
def homeOf? (user accounts : String) : Option Path :=
  (Text.split '\n' accounts).findSome? fun line =>
    match Text.split ':' line with
    | [_, _, number, _, _, home, _] =>
      if number == user && !home.isEmpty then some ⟨home⟩ else none
    | _ => none

end OtaCompile.Host
