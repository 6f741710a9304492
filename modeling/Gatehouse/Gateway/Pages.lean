import Gatehouse.Text.Decimal

/-!
# Pages

The sign-in page and the error page. Every text in a page is escaped, except the footer,
which the operator supplies as markup.
-/

namespace Gatehouse

/-- What pages have in common. -/
structure Pages where
  /-- What the path of the sign-in form begins with. -/
  start : String
  /-- A message above the form, unless it is empty. -/
  message : String
  /-- The footer: nothing stands for the usual one, and a hyphen for none. -/
  footer : String
  deriving DecidableEq, Repr

namespace Pages

/-- The escaped form of one character. -/
def escapeChar (char : Char) : List Char :=
  if char = '&' then "&amp;".toList
  else if char = '<' then "&lt;".toList
  else if char = '>' then "&gt;".toList
  else if char = '"' then "&#34;".toList
  else if char = '\'' then "&#39;".toList
  else [char]

/-- A text in which no character has a meaning in markup. -/
def escape (text : String) : String :=
  String.ofList (text.toList.flatMap escapeChar)

/-- The version that the usual footer names. -/
def version : String := "0.1.0"

/-- The markup of the footer. -/
def footerMarkup (pages : Pages) : String :=
  if pages.footer = "-" then ""
  else if pages.footer = "" then
    "<footer>Secured with LDAP Auth Proxy version " ++ version ++ "</footer>"
  else "<footer>" ++ pages.footer ++ "</footer>"

/-- The markup of the message. -/
def messageMarkup (pages : Pages) : String :=
  if pages.message = "" then ""
  else "<p class=\"message\">" ++ escape pages.message ++ "</p>"

/-- The markup of the notice of a failed attempt. -/
def failureMarkup (failed : Bool) : String :=
  if failed then "<p class=\"error\">Invalid username or password.</p>" else ""

/-- Lines, each with its end. -/
def unlines (lines : List String) : String :=
  String.join (lines.map (· ++ "\n"))

/-- The sign-in page. The destination is sent back with the form. -/
def signIn (pages : Pages) (destination : String) (failed : Bool) : String :=
  unlines
    ["<!DOCTYPE html>",
      "<html lang=\"en\">",
      "<head>",
      "<meta charset=\"utf-8\">",
      "<meta name=\"viewport\" content=\"width=device-width, initial-scale=1\">",
      "<title>Sign In</title>",
      "</head>",
      "<body>",
      "<main class=\"signin\">",
      pages.messageMarkup,
      failureMarkup failed,
      "<form method=\"POST\" action=\"" ++ escape (pages.start ++ "/sign_in") ++ "\">",
      "<input type=\"hidden\" name=\"rd\" value=\"" ++ escape destination ++ "\">",
      "<label for=\"username\">Username</label>",
      "<input type=\"text\" id=\"username\" name=\"username\" autocapitalize=\"off\" "
        ++ "autocorrect=\"off\" autofocus>",
      "<label for=\"password\">Password</label>",
      "<input type=\"password\" id=\"password\" name=\"password\">",
      "<button type=\"submit\">Sign In</button>",
      "</form>",
      "</main>",
      pages.footerMarkup,
      "</body>",
      "</html>"]

/-- The error page. -/
def error (pages : Pages) (status : Nat) (title message : String) : String :=
  let heading := escape (Text.Decimal.natural status ++ " " ++ title)
  unlines
    ["<!DOCTYPE html>",
      "<html lang=\"en\">",
      "<head>",
      "<meta charset=\"utf-8\">",
      "<title>" ++ heading ++ "</title>",
      "</head>",
      "<body>",
      "<h2>" ++ heading ++ "</h2>",
      "<p>" ++ escape message ++ "</p>",
      "<hr>",
      "<p><a href=\"" ++ escape pages.start ++ "/sign_in\">Sign In</a></p>",
      "</body>",
      "</html>"]

end Pages
end Gatehouse
