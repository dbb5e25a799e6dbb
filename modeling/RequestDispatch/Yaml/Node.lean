/-!
# YAML Documents

What a YAML document holds, as far as settings need it: scalars, sequences and mappings. Tags
are not kept, and references are replaced by what they refer to. A scalar that was written
without quotes is kept apart from other scalars, because only the former can stand for
something else than text.

A document that is not well-formed has a root all the same, which holds `broken` where the
reading ended. Whoever uses the root in order comes upon what is wrong with the part before
that place first.
-/

namespace RequestDispatch

/-- A node of a YAML document. -/
inductive YamlNode where
  /-- A scalar without quotes. An absent node is one without text. -/
  | plain (text : String)
  /-- A scalar in quotes, or written as a block. -/
  | quoted (text : String)
  /-- A sequence. -/
  | sequence (items : List YamlNode)
  /-- A mapping, with its entries as they were written. -/
  | mapping (entries : List (YamlNode × YamlNode))
  /-- Where the document stops being well-formed. -/
  | broken

/-- A YAML document. -/
structure YamlDocument where
  /-- The node at its root. -/
  root : YamlNode
  /-- Whether the document is well-formed to its end, and nothing follows it. -/
  wellFormed : Bool

end RequestDispatch
