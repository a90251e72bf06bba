import WireShape.Shape.Basic

/-! # Well-known types

Types of the standard library that are written as a single JSON value. Dates, calendars and SQL times
are written as milliseconds, the types of `java.time` as text. -/

namespace WireShape.KnownTypes

def strings : List String := [
  "java.lang.String", "java.lang.CharSequence", "java.lang.Character", "java.lang.Class",
  "java.util.UUID", "java.util.Locale", "java.util.Currency", "java.util.TimeZone",
  "java.util.regex.Pattern", "java.net.URI", "java.net.URL", "java.io.File",
  "java.nio.charset.Charset", "java.time.Duration", "java.time.Instant", "java.time.LocalDate",
  "java.time.LocalDateTime", "java.time.LocalTime", "java.time.MonthDay",
  "java.time.OffsetDateTime", "java.time.OffsetTime", "java.time.Period", "java.time.Year",
  "java.time.YearMonth", "java.time.ZoneId", "java.time.ZoneOffset", "java.time.ZonedDateTime",
  "javax.xml.datatype.Duration", "javax.xml.datatype.XMLGregorianCalendar",
  "javax.xml.namespace.QName"]

def integers : List String := [
  "java.lang.Byte", "java.lang.Short", "java.lang.Integer", "java.lang.Long",
  "java.math.BigInteger", "java.util.concurrent.atomic.AtomicInteger",
  "java.util.concurrent.atomic.AtomicLong", "java.util.Date", "java.util.Calendar",
  "java.util.GregorianCalendar", "java.sql.Date", "java.sql.Time", "java.sql.Timestamp"]

def numbers : List String := [
  "java.lang.Float", "java.lang.Double", "java.lang.Number", "java.math.BigDecimal"]

def booleans : List String := [
  "java.lang.Boolean", "java.util.concurrent.atomic.AtomicBoolean"]

def objects : List String := [
  "java.lang.Object", "com.fasterxml.jackson.databind.JsonNode",
  "com.fasterxml.jackson.databind.node.ObjectNode"]

def shape? (name : TypeName) : Option Shape :=
  if name.text ∈ strings then some (.primitive .string)
  else if name.text ∈ integers then some (.primitive .integer)
  else if name.text ∈ numbers then some (.primitive .number)
  else if name.text ∈ booleans then some (.primitive .boolean)
  else if name.text ∈ objects then some .object
  else none

end WireShape.KnownTypes
