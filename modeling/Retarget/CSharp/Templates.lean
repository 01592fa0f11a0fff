/-! Templates of the C# target that take more than a line. Module-level functions and main statements
stand in a class `Program` with an entry point; classes and exceptions stand before it. -/
namespace Retarget.CSharp.Templates

def module : String := "
    %<dependencies:lines>

    %<custom_exceptions:paragraphs>

    %<#class_definitions>

    public class Program
    \x7b
        %<constants:stmts>

        %<#function_definitions>

        public static void Main()
        \x7b
            %<main:stmts>
        \x7d
    \x7d"

def customException : String := "
    public class %<name> : %<.base>
    \x7b
        public %<name>(string message)
            : base(message)
        \x7b
        \x7d
    \x7d"

def functionDefinition : String := "
    static %<@return_type> %<name>(%<#params>)
    \x7b
        %<block:stmts>
    \x7d"

def methodDefinition : String := "
    %<.is_public>%<@return_type> %<name>(%<#params>)
    \x7b
        %<block:stmts>
    \x7d"

def constructor : String := "
    public %<@this>(%<#params>)
    \x7b
        %<block:stmts>
    \x7d"

def classDefinition : String := "
    public class %<name>%<.base>
    \x7b
        %<attrs:lines>

        %<.constructor>

        %<methods:paragraphs>
    \x7d"

def ifStatement : String := "
    if (%<test>)
    \x7b
        %<block:stmts>
    \x7d
    %<.otherwise>"

def elseIfStatement : String := "
    else if (%<test>)
    \x7b
        %<block:stmts>
    \x7d
    %<.otherwise>"

def elseStatement : String := "
    else
    \x7b
        %<block:stmts>
    \x7d"

def whileStatement : String := "
    while (%<test>)
    \x7b
        %<block:stmts>
    \x7d"

def forEach : String := "
    foreach (%<iterators> in %<sequences>)
    \x7b
        %<block:stmts>
    \x7d"

def forWithIndex : String := "
    for (int %<iterators.index> = 0; %<iterators.index> < %<sequences.sequence>.Count; %<iterators.index>++)
    \x7b
        var %<iterators.iterator> = %<sequences.sequence>[%<iterators.index>];
        %<block:stmts>
    \x7d"

def forWithItems : String := "
    foreach (var %<#item_variable> in %<sequences.sequence>)
    \x7b
        var %<iterators.key> = %<#item_variable>.Key;
        var %<iterators.value> = %<#item_variable>.Value;
        %<block:stmts>
    \x7d"

def forZip : String := "
    for (int %<#zip_index> = 0; %<#zip_index> < %<#first_sequence>.Count; %<#zip_index>++)
    \x7b
        %<#zip_iterators>
        %<block:stmts>
    \x7d"

def forRange : String := "
    for (int %<index> = %<.first>; %<index> != %<last>; %<index> += %<.step>)
    \x7b
        %<block:stmts>
    \x7d"

def tryStatement : String := "
    try
    \x7b
        %<block:stmts>
    \x7d
    %<handlers:lines>"

def exceptionHandler : String := "
    catch (%<.exception> %<instance>)
    \x7b
        %<block:stmts>
    \x7d"

end Retarget.CSharp.Templates
