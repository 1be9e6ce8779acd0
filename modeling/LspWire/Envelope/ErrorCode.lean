import LspWire.Schema.Codec
import LspWire.Schema.Field

/-! The error that a response carries in place of a result. -/

namespace LspWire

def responseError : Schema := Schema.recordOf "ResponseError"
  [Schema.required "code" "code" .integer, Schema.required "message" "message" .string,
   Schema.optional "data" "data" .any]

abbrev ResponseError := responseError.Val

inductive ErrorCode where
  | parseError
  | invalidRequest
  | methodNotFound
  | invalidParams
  | internalError
  | requestCancelled
  | contentModified
  | serverError (code : Int32)
deriving DecidableEq

namespace ErrorCode

def ofInt32 (code : Int32) : ErrorCode :=
  match code.toInt with
  | -32700 => parseError
  | -32600 => invalidRequest
  | -32601 => methodNotFound
  | -32602 => invalidParams
  | -32603 => internalError
  | -32800 => requestCancelled
  | -32801 => contentModified
  | _ => serverError code

def name : ErrorCode → String
  | parseError => "ParseError"
  | invalidRequest => "InvalidRequest"
  | methodNotFound => "MethodNotFound"
  | invalidParams => "InvalidParams"
  | internalError => "InternalError"
  | requestCancelled => "RequestCancelled"
  | contentModified => "ContentModified"
  | serverError code => Show.call "ServerError" (toString code.toInt)

def description : ErrorCode → String
  | parseError => "Parse error"
  | invalidRequest => "Invalid request"
  | methodNotFound => "Method not found"
  | invalidParams => "Invalid params"
  | internalError => "Internal error"
  | requestCancelled => "Canceled"
  | contentModified => "Content modified"
  | serverError _ => "Server error"

end ErrorCode

namespace ResponseError

def make (code : Int32) (message : String) (data : Option Json) : ResponseError :=
  (code, message, data, ())

def code (e : ResponseError) : Int32 := e.1

def message (e : ResponseError) : String := e.2.1

def data (e : ResponseError) : Option Json := e.2.2.1

def errorCode (e : ResponseError) : ErrorCode := .ofInt32 (code e)

end ResponseError

end LspWire
