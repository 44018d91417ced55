import ProtoSchema.Schema
import ProtoSchema.Text.Case

/-!
Request messages: an operation that is not unary takes a message made of its parameters.
-/
namespace ProtoSchema

/-- The name of the message that carries an operation's parameters. -/
def Operation.requestName (op : Operation) : String := Text.toPascal op.name ++ "Request"

/-- The message that carries an operation's parameters. -/
def Operation.request (op : Operation) : TypeDef where
  name := op.requestName
  description := "Request for the " ++ Text.toPascal op.name ++ " operation."
  annotations := op.annotations
  fields := op.parameters

end ProtoSchema
