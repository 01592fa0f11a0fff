import Retarget.Tree.Layout

/-! Attributes: the fields of a kind under the names that templates ask for. `fields` lists the same
fields in order, for the serialized form, and `field?_eq_lookup` holds the two together. -/
namespace Retarget
namespace Kind

/-- The field of a name, none if the tag has no such field. -/
def field? (kind : Kind α) (wanted : String) : Option (Field α) :=
  match kind with
  | .module definitions dependencies constants customExceptions main =>
    match wanted with
    | "definitions" => some (.nodes definitions)
    | "dependencies" => some (.nodes dependencies)
    | "constants" => some (.nodes constants)
    | "custom_exceptions" => some (.nodes customExceptions)
    | "main" => some (.nodes main)
    | _ => none
  | .dependency name =>
    match wanted with
    | "name" => some (.text name)
    | _ => none
  | .constant name init =>
    match wanted with
    | "constant" => some (.text name)
    | "init" => some (.node init)
    | _ => none
  | .customException name base =>
    match wanted with
    | "name" => some (.text name)
    | "base" => some (.ofText? base)
    | _ => none
  | .functionDefinition name params returnType body =>
    match wanted with
    | "name" => some (.text name)
    | "params" => some (.nodes params)
    | "return_type" => some (.type returnType)
    | "block" => some (.nodes body)
    | _ => none
  | .methodDefinition name params receiver returnType isPublic body =>
    match wanted with
    | "name" => some (.text name)
    | "params" => some (.nodes params)
    | "this" => some (.node receiver)
    | "return_type" => some (.type returnType)
    | "is_public" => some (.bool isPublic)
    | "block" => some (.nodes body)
    | _ => none
  | .constructor params receiver body =>
    match wanted with
    | "params" => some (.nodes params)
    | "this" => some (.node receiver)
    | "block" => some (.nodes body)
    | _ => none
  | .classDefinition name base attrs initializer methods =>
    match wanted with
    | "name" => some (.text name)
    | "base" => some (.ofText? base)
    | "attrs" => some (.nodes attrs)
    | "constructor" => some (.ofNode? initializer)
    | "methods" => some (.nodes methods)
    | _ => none
  | .classAttr name isPublic =>
    match wanted with
    | "name" => some (.text name)
    | "is_public" => some (.bool isPublic)
    | _ => none
  | .anonymousFunction params returnType body =>
    match wanted with
    | "params" => some (.nodes params)
    | "return_type" => some (.type returnType)
    | "block" => some (.nodes body)
    | _ => none
  | .assignment target value firstMention =>
    match wanted with
    | "target" => some (.node target)
    | "value" => some (.node value)
    | "first_mention" => some (.bool firstMention)
    | _ => none
  | .indexAssignment sequence subscript value =>
    match wanted with
    | "sequence" => some (.node sequence)
    | "index" => some (.node subscript)
    | "value" => some (.node value)
    | _ => none
  | .ifStatement test body otherwise | .elseIfStatement test body otherwise =>
    match wanted with
    | "test" => some (.node test)
    | "block" => some (.nodes body)
    | "otherwise" => some (.ofNode? otherwise)
    | _ => none
  | .elseStatement body | .block body =>
    match wanted with
    | "block" => some (.nodes body)
    | _ => none
  | .whileStatement test body =>
    match wanted with
    | "test" => some (.node test)
    | "block" => some (.nodes body)
    | _ => none
  | .forStatement iterators sequences body =>
    match wanted with
    | "iterators" => some (.node iterators)
    | "sequences" => some (.node sequences)
    | "block" => some (.nodes body)
    | _ => none
  | .forRangeStatement counter first last step body =>
    match wanted with
    | "index" => some (.node counter)
    | "first" => some (.ofNode? first)
    | "last" => some (.node last)
    | "step" => some (.ofNode? step)
    | "block" => some (.nodes body)
    | _ => none
  | .forIterator iterator =>
    match wanted with
    | "iterator" => some (.node iterator)
    | _ => none
  | .forIteratorWithIndex counter iterator =>
    match wanted with
    | "index" => some (.node counter)
    | "iterator" => some (.node iterator)
    | _ => none
  | .forIteratorWithItems key value | .pair key value =>
    match wanted with
    | "key" => some (.node key)
    | "value" => some (.node value)
    | _ => none
  | .forIteratorZip iterators =>
    match wanted with
    | "iterators" => some (.nodes iterators)
    | _ => none
  | .forSequence sequence | .forSequenceWithIndex sequence | .forSequenceWithItems sequence =>
    match wanted with
    | "sequence" => some (.node sequence)
    | _ => none
  | .forSequenceZip sequences =>
    match wanted with
    | "sequences" => some (.nodes sequences)
    | _ => none
  | .tryStatement body handlers =>
    match wanted with
    | "block" => some (.nodes body)
    | "handlers" => some (.nodes handlers)
    | _ => none
  | .exceptionHandler exception caught isBuiltin body =>
    match wanted with
    | "exception" => some (.ofText? exception)
    | "instance" => some (.text caught)
    | "is_builtin" => some (.bool isBuiltin)
    | "block" => some (.nodes body)
    | _ => none
  | .throwStatement exception value =>
    match wanted with
    | "exception" => some (.text exception)
    | "value" => some (.node value)
    | _ => none
  | .implicitReturn value | .explicitReturn value =>
    match wanted with
    | "value" => some (.node value)
    | _ => none
  | .int value =>
    match wanted with
    | "value" => some (.int value)
    | _ => none
  | .float value =>
    match wanted with
    | "value" => some (.float value)
    | _ => none
  | .string value | .regex value =>
    match wanted with
    | "value" => some (.text value)
    | _ => none
  | .boolean value =>
    match wanted with
    | "value" => some (.bool value)
    | _ => none
  | .list elements | .set elements | .tuple elements | .array elements =>
    match wanted with
    | "elements" => some (.nodes elements)
    | _ => none
  | .dictionary pairs =>
    match wanted with
    | "pairs" => some (.nodes pairs)
    | _ => none
  | .localVar name | .typename name | .instanceVariable name =>
    match wanted with
    | "name" => some (.text name)
    | _ => none
  | .attr object member =>
    match wanted with
    | "object" => some (.node object)
    | "attr" => some (.text member)
    | _ => none
  | .index sequence subscript =>
    match wanted with
    | "sequence" => some (.node sequence)
    | "index" => some (.node subscript)
    | _ => none
  | .call function args =>
    match wanted with
    | "function" => some (.node function)
    | "args" => some (.nodes args)
    | _ => none
  | .methodCall receiver message args | .staticCall receiver message args
  | .standardMethodCall receiver message args =>
    match wanted with
    | "receiver" => some (.node receiver)
    | "message" => some (.text message)
    | "args" => some (.nodes args)
    | _ => none
  | .standardCall library function args =>
    match wanted with
    | "namespace" => some (.text library)
    | "function" => some (.text function)
    | "args" => some (.nodes args)
    | _ => none
  | .newInstance className args =>
    match wanted with
    | "class_name" => some (.node className)
    | "args" => some (.nodes args)
    | _ => none
  | .binaryOp op left right | .comparison op left right =>
    match wanted with
    | "op" => some (.text op)
    | "left" => some (.node left)
    | "right" => some (.node right)
    | _ => none
  | .unaryOp op value =>
    match wanted with
    | "op" => some (.text op)
    | "value" => some (.node value)
    | _ => none
  | .null | .this => none

theorem lookup_cons_eq_ite (key name : String) (value : β) (rest : List (String × β)) :
    ((key, value) :: rest).lookup name = if name = key then some value else rest.lookup name := by
  by_cases same : name = key
  · simp [same]
  · simp [List.lookup_cons, beq_eq_false_iff_ne.mpr same, same]

theorem field?_eq_lookup (kind : Kind α) (name : String) :
    kind.field? name = kind.fields.lookup name := by
  cases kind with
  | null => rfl
  | this => rfl
  | _ =>
    simp only [fields, values, tag, Tag.fieldNames, Tag.layout, List.map_cons, List.map_nil,
      List.zip_cons_cons, List.zip_nil_left, lookup_cons_eq_ite, List.lookup_nil]
    unfold field?
    dsimp only
    -- Either the name is one of the tag's, and both sides compute, or it differs from each of them.
    split <;> first | rfl | repeat rw [if_neg (by assumption)]

end Kind
end Retarget
