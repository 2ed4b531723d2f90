namespace XorScan

inductive Symbol where
  | lParen | rParen | lBrace | rBrace | lBracket | rBracket | semicolon | comma | colon
  | doubleColon | dot | dotDot | ellipsis | question | atSign | hash | returnArrow | fatArrow
  | assign | equal | bang | notEqual | lAngle | lessEqual | leftShift | leftShiftAssign
  | rAngle | greaterEqual | rightShift | rightShiftAssign | ampersand | and | ampersandAssign
  | pipe | or | pipeAssign | caret | caretAssign | tilde | plus | increment | plusAssign
  | minus | decrement | minusAssign | star | starAssign | slash | slashAssign | percent
  | percentAssign
  deriving DecidableEq

namespace Symbol

def spelling : Symbol → List Char
  | .lParen => ['(']
  | .rParen => [')']
  | .lBrace => ['{']
  | .rBrace => ['}']
  | .lBracket => ['[']
  | .rBracket => [']']
  | .semicolon => [';']
  | .comma => [',']
  | .colon => [':']
  | .doubleColon => [':', ':']
  | .dot => ['.']
  | .dotDot => ['.', '.']
  | .ellipsis => ['.', '.', '.']
  | .question => ['?']
  | .atSign => ['@']
  | .hash => ['#']
  | .returnArrow => ['-', '>']
  | .fatArrow => ['=', '>']
  | .assign => ['=']
  | .equal => ['=', '=']
  | .bang => ['!']
  | .notEqual => ['!', '=']
  | .lAngle => ['<']
  | .lessEqual => ['<', '=']
  | .leftShift => ['<', '<']
  | .leftShiftAssign => ['<', '<', '=']
  | .rAngle => ['>']
  | .greaterEqual => ['>', '=']
  | .rightShift => ['>', '>']
  | .rightShiftAssign => ['>', '>', '=']
  | .ampersand => ['&']
  | .and => ['&', '&']
  | .ampersandAssign => ['&', '=']
  | .pipe => ['|']
  | .or => ['|', '|']
  | .pipeAssign => ['|', '=']
  | .caret => ['^']
  | .caretAssign => ['^', '=']
  | .tilde => ['~']
  | .plus => ['+']
  | .increment => ['+', '+']
  | .plusAssign => ['+', '=']
  | .minus => ['-']
  | .decrement => ['-', '-']
  | .minusAssign => ['-', '=']
  | .star => ['*']
  | .starAssign => ['*', '=']
  | .slash => ['/']
  | .slashAssign => ['/', '=']
  | .percent => ['%']
  | .percentAssign => ['%', '=']

def name : Symbol → String
  | .lParen => "L_PAREN"
  | .rParen => "R_PAREN"
  | .lBrace => "L_BRACE"
  | .rBrace => "R_BRACE"
  | .lBracket => "L_BRACKET"
  | .rBracket => "R_BRACKET"
  | .semicolon => "SEMICOLON"
  | .comma => "COMMA"
  | .colon => "COLON"
  | .doubleColon => "DOUBLE_COLON"
  | .dot => "DOT"
  | .dotDot => "DOT_DOT"
  | .ellipsis => "ELLIPSIS"
  | .question => "QUESTION"
  | .atSign => "AT"
  | .hash => "HASH"
  | .returnArrow => "RETURN_ARROW"
  | .fatArrow => "FAT_ARROW"
  | .assign => "ASSIGN"
  | .equal => "EQUAL"
  | .bang => "BANG"
  | .notEqual => "NOT_EQUAL"
  | .lAngle => "L_ANGLE"
  | .lessEqual => "LESS_EQUAL"
  | .leftShift => "LEFT_SHIFT"
  | .leftShiftAssign => "LEFT_SHIFT_ASSIGN"
  | .rAngle => "R_ANGLE"
  | .greaterEqual => "GREATER_EQUAL"
  | .rightShift => "RIGHT_SHIFT"
  | .rightShiftAssign => "RIGHT_SHIFT_ASSIGN"
  | .ampersand => "AMPERSAND"
  | .and => "AND"
  | .ampersandAssign => "AMPERSAND_ASSIGN"
  | .pipe => "PIPE"
  | .or => "OR"
  | .pipeAssign => "PIPE_ASSIGN"
  | .caret => "CARET"
  | .caretAssign => "CARET_ASSIGN"
  | .tilde => "TILDE"
  | .plus => "PLUS"
  | .increment => "INCREMENT"
  | .plusAssign => "PLUS_ASSIGN"
  | .minus => "MINUS"
  | .decrement => "DECREMENT"
  | .minusAssign => "MINUS_ASSIGN"
  | .star => "STAR"
  | .starAssign => "STAR_ASSIGN"
  | .slash => "SLASH"
  | .slashAssign => "SLASH_ASSIGN"
  | .percent => "PERCENT"
  | .percentAssign => "PERCENT_ASSIGN"

def all : List Symbol :=
  [.lParen, .rParen, .lBrace, .rBrace, .lBracket, .rBracket, .semicolon, .comma, .colon,
   .doubleColon, .dot, .dotDot, .ellipsis, .question, .atSign, .hash, .returnArrow, .fatArrow,
   .assign, .equal, .bang, .notEqual, .lAngle, .lessEqual, .leftShift, .leftShiftAssign,
   .rAngle, .greaterEqual, .rightShift, .rightShiftAssign, .ampersand, .and, .ampersandAssign,
   .pipe, .or, .pipeAssign, .caret, .caretAssign, .tilde, .plus, .increment, .plusAssign,
   .minus, .decrement, .minusAssign, .star, .starAssign, .slash, .slashAssign, .percent,
   .percentAssign]

/-- The symbols that begin with a character, longer spellings before shorter ones. -/
def family : Char → List Symbol
  | '(' => [.lParen]
  | ')' => [.rParen]
  | '{' => [.lBrace]
  | '}' => [.rBrace]
  | '[' => [.lBracket]
  | ']' => [.rBracket]
  | ';' => [.semicolon]
  | ',' => [.comma]
  | '?' => [.question]
  | '@' => [.atSign]
  | '#' => [.hash]
  | '~' => [.tilde]
  | ':' => [.doubleColon, .colon]
  | '.' => [.ellipsis, .dotDot, .dot]
  | '=' => [.equal, .fatArrow, .assign]
  | '!' => [.notEqual, .bang]
  | '<' => [.leftShiftAssign, .leftShift, .lessEqual, .lAngle]
  | '>' => [.rightShiftAssign, .rightShift, .greaterEqual, .rAngle]
  | '&' => [.and, .ampersandAssign, .ampersand]
  | '|' => [.or, .pipeAssign, .pipe]
  | '^' => [.caretAssign, .caret]
  | '+' => [.increment, .plusAssign, .plus]
  | '-' => [.decrement, .minusAssign, .returnArrow, .minus]
  | '*' => [.starAssign, .star]
  | '/' => [.slashAssign, .slash]
  | '%' => [.percentAssign, .percent]
  | _ => []

def longestFirst : List Symbol :=
  all.filter (·.spelling.length = 3) ++ all.filter (·.spelling.length = 2) ++
    all.filter (·.spelling.length = 1)

def longest? (s : List Char) : Option Symbol :=
  longestFirst.find? (·.spelling.isPrefixOf s)

theorem length_longest?_le {s : List Char} {y : Symbol} (h : longest? s = some y) :
    y.spelling.length ≤ s.length := by
  unfold longest? at h
  have hp := List.find?_some h
  exact (List.isPrefixOf_iff_prefix.mp hp).length_le

end Symbol

end XorScan
