import ItemRecommender.Object.Library.Heaps
import ItemRecommender.Object.Library.Paths
import ItemRecommender.Object.Library.Folding
import ItemRecommender.Object.Library.Interpreter
import ItemRecommender.Object.Library.Codecs
import ItemRecommender.Object.Library.Colours
import ItemRecommender.Object.Library.Calendar
import ItemRecommender.Object.Library.Statistics
import ItemRecommender.Object.Library.JsonText
import ItemRecommender.Object.Library.JsonReading
import ItemRecommender.Object.Library.Pickling
import ItemRecommender.Object.Library.Words
import ItemRecommender.Object.Library.ComplexFunctions
import ItemRecommender.Object.Library.Patterns
import ItemRecommender.Object.Library.CharacterData
import ItemRecommender.Object.Library.Paragraphs
import ItemRecommender.Object.Library.BinaryText
import ItemRecommender.Object.Library.Markup
import ItemRecommender.Object.Library.Shell
import ItemRecommender.Object.Library.Urls
/-! # Functions of the standard library

    The functions of the language's standard modules that a dataset may call, each written
    anew over the library's values: heaps and sorted lists, paths, folds and copies, codecs, colours, the calendar,
    statistics, JSON text, streams, reserved words,
    functions of a complex variable, patterns, the character database, the wrapping of
    paragraphs, binary data written as text, the references of markup, shell words, and URLs. A call is given the means
    to call back into values, for the key functions some of them take. -/

namespace ItemRecommender.Object

/-- A function of a standard module applied, or `none` for a function not written here. -/
def libraryFunction (call : Value → List Value → Act Value) (m name : String)
    (args : List Value) (kwargs : List (String × Value)) : Option (Act Value) :=
  orderedListFunction call m name args kwargs <|> pathFunction m name args kwargs <|>
    foldingFunction call m name args kwargs <|> interpreterFunction m name args kwargs <|>
    codecFunction m name args kwargs <|> colourFunction m name args kwargs <|>
    calendarFunction m name args kwargs <|> statisticsFunction m name args kwargs <|>
    jsonFunction call m name args kwargs <|> jsonReadingFunction call m name args kwargs <|>
    pickleFunction m name args kwargs <|>
    wordFunction m name args kwargs <|> complexMathFunction m name args kwargs <|>
    patternFunction call m name args kwargs <|> characterDataFunction m name args kwargs <|>
    paragraphFunction call m name args kwargs <|> binaryTextFunction m name args kwargs <|>
    markupFunction m name args kwargs <|> shellFunction m name args kwargs <|>
    urlFunction call m name args kwargs

end ItemRecommender.Object
