import Retarget.CSharp.Library
import Retarget.CSharp.Overrides
import Retarget.CSharp.Templates
import Retarget.Settings

/-! The C# profile: a template or a switch for each tag that can be rendered, the pairs for optional
attributes, and the type table. -/
namespace Retarget.CSharp

/-- Semantic types in C#. -/
def types : TypeTable := .ofList
  [
    ("Int", .plain "int"),
    ("Float", .plain "double"),
    ("Boolean", .plain "bool"),
    ("String", .plain "string"),
    ("Void", .plain "void"),
    ("Object", .plain "object"),
    ("Exception", .plain "Exception"),
    ("Regexp", .plain "Regex"),
    ("List", .positional "List<\x7b0\x7d>"),
    ("Dictionary", .positional "Dictionary<\x7b0\x7d, \x7b1\x7d>"),
    ("Set", .positional "HashSet<\x7b0\x7d>"),
    ("Array", .positional "\x7b0\x7d[]"),
    ("Tuple", .variadic "Tuple<\x7b0\x7d>" ", "),
    ("Function",
      .callable "Func<\x7b0\x7d>" "Action<\x7b0\x7d>" "Action" "void" ", ")]

def templates : List Registration :=
  [
    .template .module Templates.module,
    .template .dependency "using %<name>;",
    .template .constant "static readonly %<@pseudo_type> %<constant> = %<init>",
    .template .customException Templates.customException,
    .optional .customException "base" "%<base>" "Exception",
    .template .functionDefinition Templates.functionDefinition,
    .template .methodDefinition Templates.methodDefinition,
    .optional .methodDefinition "is_public" "public " "private ",
    .template .constructor Templates.constructor,
    .template .classDefinition Templates.classDefinition,
    .optional .classDefinition "base" "%<#base>" "",
    .optional .classDefinition "constructor" "%<constructor>" "",
    .template .classAttr "%<.is_public>%<@pseudo_type> %<name>;",
    .optional .classAttr "is_public" "public " "private ",
    .template .anonymousFunction "(%<params:join ', '>) =>%<#anon_block>",
    .switch .assignment "first_mention" [("true", "var %<target> = %<value>")]
      (some "%<target> = %<value>"),
    .template .indexAssignment "%<sequence>[%<index>] = %<value>",
    .template .ifStatement Templates.ifStatement,
    .optional .ifStatement "otherwise" "%<otherwise>" "",
    .template .elseIfStatement Templates.elseIfStatement,
    .optional .elseIfStatement "otherwise" "%<otherwise>" "",
    .template .elseStatement Templates.elseStatement,
    .template .whileStatement Templates.whileStatement,
    .switch .forStatement "iterators"
      [("for_iterator_with_index", Templates.forWithIndex),
        ("for_iterator_with_items", Templates.forWithItems),
        ("for_iterator_zip", Templates.forZip)]
      (some Templates.forEach),
    .template .forIterator "var %<iterator>",
    .template .forSequence "%<sequence>",
    .template .forRangeStatement Templates.forRange,
    .optional .forRangeStatement "first" "%<first>" "0",
    .optional .forRangeStatement "step" "%<step>" "1",
    .template .tryStatement Templates.tryStatement,
    .template .exceptionHandler Templates.exceptionHandler,
    .optional .exceptionHandler "exception" "%<exception>" "Exception",
    .template .throwStatement "throw new %<exception>(%<value>)",
    .template .implicitReturn "return %<value>",
    .template .explicitReturn "return %<value>",
    .template .block "%<block:stmts>",
    .template .int "%<value>",
    .template .float "%<value>",
    .template .string "%<#string_literal>",
    .template .boolean "%<value>",
    .template .null "null",
    .template .regex "new Regex(%<#verbatim_string>)",
    .template .list "new %<@pseudo_type> \x7b%<elements:join ', '>\x7d",
    .template .dictionary "new %<@pseudo_type> \x7b%<pairs:join ', '>\x7d",
    .template .pair "\x7b%<key>, %<value>\x7d",
    .template .set "new %<@pseudo_type> \x7b%<elements:join ', '>\x7d",
    .template .tuple "Tuple.Create(%<elements:join ', '>)",
    .template .array "new %<@pseudo_type> \x7b%<elements:join ', '>\x7d",
    .template .localVar "%<name>",
    .template .typename "%<name>",
    .template .instanceVariable "this.%<name>",
    .template .this "this",
    .template .attr "%<object>.%<attr>",
    .template .index "%<sequence>[%<index>]",
    .template .call "%<function>(%<args:join ', '>)",
    .template .methodCall "%<receiver>.%<message>(%<args:join ', '>)",
    .template .staticCall "%<receiver>.%<message>(%<args:join ', '>)",
    .template .standardCall "%<#standard_call>",
    .template .standardMethodCall "%<#standard_method_call>",
    .template .newInstance "new %<class_name>(%<args:join ', '>)",
    .template .binaryOp "%<#left_operand> %<op> %<#right_operand>",
    .template .comparison "%<#left_operand> %<op> %<#right_operand>",
    .template .unaryOp "%<op>%<#unary_operand>"]

def overrides : List Registration :=
  [
    .override "params" params,
    .override "anon_block" anonymousBody,
    .override "base" base,
    .override "class_definitions" classDefinitions,
    .override "function_definitions" functionDefinitions,
    .override "item_variable" itemVariable,
    .override "zip_index" zipCounter,
    .override "first_sequence" firstSequence,
    .override "zip_iterators" zipIterators,
    .override "string_literal" stringLiteral,
    .override "verbatim_string" verbatimString,
    .override "standard_call" standardCall,
    .override "standard_method_call" standardMethodCall,
    .override "left_operand" leftOperand,
    .override "right_operand" rightOperand,
    .override "unary_operand" unaryOperand]

/-- Indentation by tabs if they are asked for, else by four blanks or as many as are asked for. -/
def indent (settings : LanguageSettings) : Indent :=
  if settings.tabs = some true then .tabs else .spaces (settings.indent.getD 4)

def naming (settings : LanguageSettings) : Naming where
  normal := settings.naming.normal.getD .camel
  method := settings.naming.method.getD .pascal
  function := settings.naming.function.getD .pascal

def registrations (settings : LanguageSettings) : List Registration :=
  [.indent (indent settings), .terminator ";", .pass .declaration, .pass (.naming (naming settings)),
    .pass .imports, .types types] ++
    typeDependencies ++ libraryFunctions ++ libraryMethods ++ templates ++ overrides

/-- The C# profile under some settings. -/
def profile (settings : LanguageSettings) : Except TemplateError Profile :=
  Profile.build "csharp" "cs" (registrations settings)

end Retarget.CSharp
