import SchemaDocs.Schema.Basic

/-!
# Walking the messages of a file

Names are indexed and references are visited message by message, a message
before the ones nested in it and those in their order: the pre-order of the
tree. `walk` goes through it with a list of messages still to be visited, always
taking the first and putting its nested messages in front of the rest.
`preorder` is the same order by recursion on the tree.
-/

namespace SchemaDocs

mutual

/-- How many messages there are in the tree of a message. -/
def Message.count : Message → Nat
  | ⟨_, _, _, messages, _, _, _⟩ => countMessages messages + 1

def countMessages : List Message → Nat
  | [] => 0
  | m :: rest => m.count + countMessages rest

end

/-- Visits what is still to be visited, for as many messages as `fuel` says. -/
def visit : (fuel : Nat) → List Message → List Message
  | 0, _ => []
  | _ + 1, [] => []
  | fuel + 1, m :: rest => m :: visit fuel (m.messages ++ rest)

/-- A message and all the messages inside it. -/
def Message.walk (m : Message) : List Message := visit m.count [m]

mutual

def Message.preorder : Message → List Message
  | m@⟨_, _, _, messages, _, _, _⟩ => m :: preorderAll messages

def preorderAll : List Message → List Message
  | [] => []
  | m :: rest => m.preorder ++ preorderAll rest

end

/-- All messages of a file, nested ones included. -/
def File.allMessages (f : File) : List Message := f.messages.flatMap Message.walk

end SchemaDocs
