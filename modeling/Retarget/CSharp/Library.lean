import Retarget.Profile.Registration

/-! The standard library of the C# target, and what its types need imported. -/
namespace Retarget.CSharp

def typeDependencies : List Registration :=
  [
    .typeDependency "List" "System.Collections.Generic",
    .typeDependency "Dictionary" "System.Collections.Generic",
    .typeDependency "Set" "System.Collections.Generic",
    .typeDependency "Tuple" "System",
    .typeDependency "Function" "System",
    .typeDependency "Regexp" "System.Text.RegularExpressions"]

def libraryFunctions : List Registration :=
  [
    .function "io" "display" "Console.WriteLine(%<args:join ', '>)" (some "System"),
    .function "io" "read" "Console.ReadLine()" (some "System"),
    .function "io" "read_file" "File.ReadAllText(%<args:join ', '>)" (some "System.IO"),
    .function "io" "write_file" "File.WriteAllText(%<args:join ', '>)" (some "System.IO"),
    .function "math" "ln" "Math.Log(%<args:join ', '>)" (some "System"),
    .function "math" "log" "Math.Log(%<args:join ', '>)" (some "System"),
    .function "math" "pow" "Math.Pow(%<args:join ', '>)" (some "System"),
    .function "math" "sqrt" "Math.Sqrt(%<args:join ', '>)" (some "System"),
    .function "math" "sin" "Math.Sin(%<args:join ', '>)" (some "System"),
    .function "math" "cos" "Math.Cos(%<args:join ', '>)" (some "System"),
    .function "math" "tan" "Math.Tan(%<args:join ', '>)" (some "System"),
    .function "system" "exit" "Environment.Exit(%<args:join ', '>)" (some "System")]

def libraryMethods : List Registration :=
  [
    .method "List" "length" "%<receiver>.Count" none,
    .method "List" "push" "%<receiver>.Add(%<args:join ', '>)" none,
    .method "List" "insert" "%<receiver>.Insert(%<args:join ', '>)" none,
    .method "List" "contains" "%<receiver>.Contains(%<args:join ', '>)" none,
    .method "List" "index" "%<receiver>.IndexOf(%<args:join ', '>)" none,
    .method "List" "sort" "%<receiver>.Sort()" none,
    .method "List" "join" "string.Join(%<args:join ', '>, %<receiver>)" none,
    .method "List" "slice_from" "%<receiver>.Skip(%<args:join ', '>).ToList()"
      (some "System.Linq"),
    .method "List" "slice_to" "%<receiver>.Take(%<args:join ', '>).ToList()" (some "System.Linq"),
    .method "List" "map" "%<receiver>.Select(%<args:join ', '>).ToList()" (some "System.Linq"),
    .method "List" "filter" "%<receiver>.Where(%<args:join ', '>).ToList()" (some "System.Linq"),
    .method "List" "any" "%<receiver>.Any(%<args:join ', '>)" (some "System.Linq"),
    .method "List" "all" "%<receiver>.All(%<args:join ', '>)" (some "System.Linq"),
    .method "List" "reverse" "Enumerable.Reverse(%<receiver>).ToList()" (some "System.Linq"),
    .method "Dictionary" "length" "%<receiver>.Count" none,
    .method "Dictionary" "keys" "%<receiver>.Keys" none,
    .method "Dictionary" "values" "%<receiver>.Values" none,
    .method "Dictionary" "contains" "%<receiver>.ContainsKey(%<args:join ', '>)" none,
    .method "Set" "length" "%<receiver>.Count" none,
    .method "Set" "add" "%<receiver>.Add(%<args:join ', '>)" none,
    .method "Set" "contains" "%<receiver>.Contains(%<args:join ', '>)" none,
    .method "String" "length" "%<receiver>.Length" none,
    .method "String" "substr" "%<receiver>.Substring(%<args:join ', '>)" none,
    .method "String" "upper" "%<receiver>.ToUpper()" none,
    .method "String" "lower" "%<receiver>.ToLower()" none,
    .method "String" "trim" "%<receiver>.Trim()" none,
    .method "String" "contains" "%<receiver>.Contains(%<args:join ', '>)" none,
    .method "String" "find" "%<receiver>.IndexOf(%<args:join ', '>)" none,
    .method "String" "split" "%<receiver>.Split(%<args:join ', '>)" none,
    .method "String" "replace" "%<receiver>.Replace(%<args:join ', '>)" none,
    .method "String" "to_int" "int.Parse(%<receiver>)" none,
    .method "Int" "to_string" "%<receiver>.ToString()" none,
    .method "Float" "to_string" "%<receiver>.ToString()" none]

end Retarget.CSharp
