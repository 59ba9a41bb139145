/-! # The texts of the wrapper templates

A wrapper is put together from these templates. Each is written line by line, with `slot` where a
value is printed and `tag` where a loop or a conditional begins or ends.
-/

namespace ElementWrap.Wrapper.Source

/-- The place of a value. -/
def slot (expression : String) : String := "\x7b\x7b " ++ expression ++ " \x7d\x7d"

/-- The place of a tag. -/
def tag (statement : String) : String := "\x7b% " ++ statement ++ " %\x7d"

/-- Lines that each end in a line feed. -/
def lines (texts : List String) : String := String.join (texts.map (· ++ "\n"))

/-- The line that opens the class. A module of its own exports its class as the default. -/
def classHeader : String := lines [
    "export " ++ tag "if export_default" ++ "default " ++ tag "endif" ++ "class " ++
      slot "class_name" ++ " extends React.Component \x7b",
    ""]

/-- The constructor, which binds every event handler to the instance. -/
def constructor : String := lines [
    "    constructor(props) \x7b",
    "        super(props);",
    tag "for event in events",
    "        this." ++ slot "event.handler" ++ " = this." ++ slot "event.handler" ++ ".bind(this);",
    tag "endfor",
    "    \x7d",
    ""]

/-- The callback of the insertion: listeners and first values. -/
def mount : String := lines [
    "    componentDidMount() \x7b",
    tag "for event in events",
    "        this._refElement.addEventListener('" ++ slot "event.name" ++ "', this." ++
      slot "event.handler" ++ ");",
    tag "endfor",
    tag "for property in properties",
    "        if (this.props." ++ slot "property.name" ++ ") \x7b",
    "            this._refElement." ++ slot "property.name" ++ " = this.props." ++
      slot "property.name" ++ ";",
    "        \x7d",
    tag "endfor",
    "    \x7d",
    ""]

/-- The callback of the removal, which takes the listeners away. -/
def unmount : String := lines [
    "    componentWillUnmount() \x7b",
    tag "for event in events",
    "        this._refElement.removeEventListener('" ++ slot "event.name" ++ "', this." ++
      slot "event.handler" ++ ");",
    tag "endfor",
    "    \x7d",
    ""]

/-- The callback of an update, which passes changed values on. -/
def update : String := lines [
    "    componentDidUpdate(pp) \x7b",
    tag "for property in properties",
    "        if (pp." ++ slot "property.name" ++ " !== this.props." ++ slot "property.name" ++
      ") \x7b",
    "            this._refElement." ++ slot "property.name" ++ " = this.props." ++
      slot "property.name" ++ ";",
    "        \x7d",
    tag "endfor",
    "    \x7d",
    ""]

/-- A handler for each event, which calls the callback with the detail and the event. -/
def eventHandlers : String := lines [
    tag "for event in events",
    "    " ++ slot "event.handler" ++ "(e) \x7b",
    "        if (this.props." ++ slot "event.callback" ++ ") \x7b",
    "            this.props." ++ slot "event.callback" ++ "(e.detail, e);",
    "        \x7d",
    "    \x7d",
    "",
    tag "endfor"]

/-- A getter or a forwarding method for each member of the public interface. -/
def api : String := lines [
    tag "for member in members",
    tag "if member.getter",
    "    get " ++ slot "member.name" ++ "() \x7b",
    "        return this._refElement." ++ slot "member.name" ++ ";",
    "    \x7d",
    tag "else",
    "    " ++ slot "member.name" ++ "(" ++ slot "member.params | join_names" ++ ") \x7b",
    "        this._refElement." ++ slot "member.name" ++ "(" ++
      slot "member.params | join_names" ++ ");",
    "    \x7d",
    tag "endif",
    "",
    tag "endfor"]

/-- The method that places the element and keeps a reference to it. -/
def render : String := lines [
    "    render() \x7b",
    "        return (",
    "            <div>",
    "                <" ++ slot "tag_name",
    "                  ref=\x7b(element) => \x7bthis._refElement = element;\x7d\x7d/>",
    "            </div>",
    "        );",
    "    \x7d"]

/-- The import that opens every module. -/
def fileHeader : String := lines [
    "import React from 'react';",
    ""]

/-- The module that exports a class under its directory. -/
def index : String := lines [
    "import " ++ slot "class_name" ++ " from './" ++ slot "class_name" ++ "';",
    "",
    "export default " ++ slot "class_name" ++ ";"]

/-- The declarations that go with every build. Their text never changes. -/
def helpers : String := lines [
    "var polyfill = \"<script>window.Polymer=\x7bdom:'shadow'\x7d;(function()\x7b\";",
    "polyfill += \"'use strict';var onload=function()\x7bif(!window.HTMLImports)\x7b\";",
    "polyfill += \"document.dispatchEvent(new CustomEvent('WebComponentsReady',\";",
    "polyfill += \"\x7bbubbles:true\x7d));\x7d\x7d;var webComponentsSupported=\";",
    "polyfill += \"('registerElement'in document&&'import'in document.\";",
    "polyfill += \"createElement('link')\";",
    "polyfill += \"&&'content'in document.createElement('template'));if(!\";",
    "polyfill += \"webComponentsSupported)\x7bvar script=document\";",
    "polyfill += \".createElement('script');\";",
    "polyfill += \"script.async=true;script.src='BASEPATH/webcomponentsjs\";",
    "polyfill += \"/webcomponents-lite.min.js';script.onload=onload;document\";",
    "polyfill += \".head.appendChild\";",
    "polyfill += \"(script);\x7delse\x7bdocument.addEventListener('DOMContentLoaded'\";",
    "polyfill += \",function()\x7bonload();\x7d);\x7d\x7d)();</script>\";",
    "/**",
    " * Use this function to add WC polyfill script declaration.",
    " *",
    " * @param \x7b?String\x7d basePath - Path to the polyfill directory",
    " * @return \x7bString\x7d A `script` HTML tag declaration",
    " */",
    "export const polyfillScript = (basePath) => " ++
      "polyfill.replace('BASEPATH', basePath || '');",
    "/**",
    " * Use this function to import ARC components.",
    " *",
    " * @param \x7b?String\x7d basePath - Path to the import file's directory",
    " * @return \x7bString\x7d A `link` HTML tag declaration pointing to the import file",
    " */",
    "export const componentsImport = (basePath, importFile) => " ++
      "'<link rel=\"import\" href=\"BASEPATH/IMPORTFILE\">'",
    ".replace('BASEPATH', basePath || '')",
    ".replace('IMPORTFILE', importFile || '');"]

end ElementWrap.Wrapper.Source
