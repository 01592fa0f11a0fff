import Retarget.SemType
import Retarget.Profile.TypeSyntax
import Retarget.Render.Error

/-! Types as a target spells them. A scalar is looked up in the type table, or stands for itself if
the module declares it; a container has to be in the table. -/
namespace Retarget.SemType

mutual
def render (types : TypeTable) (declared : List String) : SemType → Except GenerateError String
  | .named name =>
    match types.get? name with
    | some spelling => .ok (spelling.apply [])
    | none => if declared.contains name then .ok name else .error (.unknownType name)
  | .container name args =>
    match types.get? name with
    | some spelling => do return spelling.apply (← renderAll types declared args)
    | none => .error (.unknownType name)
  | .fixedArray element size =>
    match types.get? "Array" with
    | some spelling => do
      return spelling.apply [← render types declared element, toString size]
    | none => .error (.unknownType "Array")
def renderAll (types : TypeTable) (declared : List String) :
    List SemType → Except GenerateError (List String)
  | [] => .ok []
  | type :: rest => do return (← render types declared type) :: (← renderAll types declared rest)
end

end Retarget.SemType
