import ScriptLint.Failure

/-! # What a server is built on

A server leaves the protocol to a framework. The framework takes in what a client says about documents
before the program hears of it, so that the program finds every document as it is by then, and it
checks the points that the program puts into diagnostics. Anything that the program needs of it is a
parameter of the server.
-/

namespace ScriptLint.Server

/-- A point in a document. -/
structure Point where
  line : Nat
  character : Nat
  deriving DecidableEq, Repr

/-- A document as the framework has it. -/
structure Document where
  text : String
  /-- The file that the URI of the document names. -/
  file : String
  deriving DecidableEq, Repr

/-- What the framework does for the program. -/
structure Framework where
  /-- The documents that it has, in whatever form. -/
  Documents : Type
  empty : Documents
  /-- The documents after the one at a URI is opened with a text. -/
  opened : Documents → String → String → Except Failure Documents
  /-- The documents after the one at a URI is given another text. -/
  changed : Documents → String → String → Except Failure Documents
  closed : Documents → String → Except Failure Documents
  document : Documents → String → Except Failure Document
  /-- The point at a line and a character, both counted from zero. -/
  point : Int → Int → Except Failure Point

end ScriptLint.Server
