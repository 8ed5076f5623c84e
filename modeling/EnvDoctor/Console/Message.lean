import EnvDoctor.Console.Markup
import EnvDoctor.Json.Printer
import EnvDoctor.Text.Surrogate

/-!
# Messages

What a command tells its user: remarks, good and bad news with their details, plain lines, and
documents. They are printed on a terminal.
-/

namespace EnvDoctor

inductive Message where
  | info (text : String)
  | good (text : String)
  | bad (text : String)
  | detail (text : String)
  | line (text : String)
  | document (v : Value)

/-- A message as it is printed, without the last line end. -/
def Message.text : Message → String
  | info text => "• " ++ Markup.shown text
  | good text => "OK " ++ Markup.shown text
  | bad text => "ERR " ++ Markup.shown text
  | detail text => "    " ++ Markup.shown text
  | line text => text
  | document v => Json.pretty v

def Message.print (messages : List Message) : String :=
  String.join (messages.map fun m => m.text ++ "\n")

/-- Where messages are printed. A terminal need not take every text. -/
structure Terminal where
  takes : String → Bool

/-- A terminal that takes whatever can be encoded, that is, no half of a surrogate pair. -/
def Terminal.utf8 : Terminal where
  takes s := s.toList.all fun c => !Text.isSurrogate (Text.codePoint c)

end EnvDoctor
