import Pagewise.Text.Base64
import Pagewise.Url.Basic

/-!
The name and password in a URL. They are not sent as parts of the URL but in a field of their own.
-/
namespace Pagewise.Authority

def plainText? (s : String) : Option String := Text.Utf8.decode? (Percent.decode s.toList)

/-- The name and the password, if at least one of them is there. A name that is no text hides them
both, and a password that is no text counts as none. -/
def credentials? (a : Authority) : Option (String × String) :=
  match plainText? a.user with
  | none => none
  | some user =>
    let password := (plainText? a.password).getD ""
    if user.isEmpty && password.isEmpty then none else some (user, password)

def authorization? (a : Authority) : Option String :=
  a.credentials?.map fun c =>
    "Basic " ++ String.ofList (Text.Base64.encode (Text.Utf8.encode (c.1 ++ ":" ++ c.2)))

end Pagewise.Authority
